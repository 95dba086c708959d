import PicoTorrent.Ui.Dialogs.AddTorrentDialog.Frame

namespace PicoTorrent

namespace AddTorrentDialog

/-! The strings of `m_torrents` name each entry of `m_params` as `GetTorrentDisplayName`
does, whatever the user and the metadata arrivals do. -/

/-- Each string of the torrent choice is the display name of its entry. -/
def NamesAgree (dialog : AddTorrentDialog) : Prop :=
  dialog.torrents = dialog.params.map getTorrentDisplayName

theorem getTorrentDisplayName_congr {params other : AddTorrentParams} (ti : other.ti = params.ti)
    (name : other.name = params.name) (infoHashes : other.infoHashes = params.infoHashes) :
    getTorrentDisplayName other = getTorrentDisplayName params :=
  congrArg Labels.torrentName (displayLabels_congr ti name infoHashes)

namespace NamesAgree

variable {dialog : AddTorrentDialog}

/-- Writing the selected entry keeps the names when it keeps the entry's display name. -/
theorem setSelected (agree : NamesAgree dialog) {next : AddTorrentDialog}
    (torrents : next.torrents = dialog.torrents) {entry : AddTorrentParams}
    (params : next.params = dialog.params.set dialog.selection entry)
    (named : getTorrentDisplayName entry = getTorrentDisplayName dialog.selected) :
    NamesAgree next := by
  have selectedName : (dialog.params.map getTorrentDisplayName)[dialog.selection]? =
      some (getTorrentDisplayName dialog.selected) := by
    simp [getElem?_selection]
  rw [NamesAgree, torrents, params, List.map_set, named, set_of_getElem?_eq selectedName]
  exact agree

theorem load (agree : NamesAgree dialog) : NamesAgree dialog.load :=
  agree.setSelected (torrents_load dialog) (params_load dialog)
    (getTorrentDisplayName_congr rfl rfl rfl)

theorem setSavePathValue (agree : NamesAgree dialog) (text : WxString) :
    NamesAgree (dialog.setSavePathValue text) :=
  agree.setSelected (torrents_setSavePathValue dialog text) (params_setSavePathValue dialog text)
    (getTorrentDisplayName_congr rfl rfl rfl)

theorem showFileContextMenu (agree : NamesAgree dialog) (itemsEmpty : Bool)
    (fileIndices : List Nat) (chosen : Option PriorityMenuItem) :
    NamesAgree (dialog.showFileContextMenu itemsEmpty fileIndices chosen) := by
  unfold AddTorrentDialog.showFileContextMenu
  split
  · exact agree
  · cases chosen with
    | none => exact agree
    | some item =>
        show NamesAgree (dialog.onPriorityMenu fileIndices item).updatePriorities
        exact agree.setSelected rfl rfl (getTorrentDisplayName_congr rfl rfl rfl)

theorem step (agree : NamesAgree dialog) {event : Event} {next : AddTorrentDialog}
    (stepped : dialog.step event = some next) : NamesAgree next := by
  rcases step_cases stepped with ⟨_, _, -, rfl⟩ | ⟨text, -, rfl⟩ | ⟨-, rfl⟩ | ⟨-, rfl⟩ |
    ⟨-, rfl⟩ | ⟨_, _, _, -, rfl⟩
  · exact NamesAgree.load agree
  · exact agree.setSavePathValue text
  · exact agree
  · exact agree.setSelected rfl (params_onSequentialDownload _)
      (getTorrentDisplayName_congr rfl rfl rfl)
  · exact agree.setSelected rfl (params_onStartTorrent _)
      (getTorrentDisplayName_congr rfl rfl rfl)
  · exact agree.showFileContextMenu _ _ _

/-- `MetadataFound` relabels exactly the entries it gives the metadata, with the metadata's
name, which is their new display name. -/
theorem metadataFound (agree : NamesAgree dialog) (ti : TorrentInfo) :
    NamesAgree (dialog.metadataFound ti) := by
  refine List.ext_getElem? fun j => ?_
  rw [getElem?_torrents_metadataFound, List.getElem?_map, getElem?_params_metadataFound, agree,
    List.getElem?_map]
  cases stored : dialog.params[j]? with
  | none => rfl
  | some entry =>
      simp only [Option.map_some', HashesMatchAt_iff stored, metadataEntry]
      by_cases hashes : entry.infoHashes = ti.infoHashes
      · by_cases selectedHere : j = dialog.selection <;> simp [hashes, selectedHere,
          getTorrentDisplayName]
      · simp [hashes]

end NamesAgree

/-- In every state the dialog reaches, each string of the torrent choice is
`GetTorrentDisplayName` of its entry's current parameters. -/
theorem namesAgree_of_reachable {dialog : AddTorrentDialog} (reachable : Reachable dialog) :
    NamesAgree dialog := by
  induction reachable with
  | create params nonempty => exact NamesAgree.load rfl
  | step event _ stepped agree => exact agree.step stepped
  | metadataFound ti _ agree => exact agree.metadataFound ti

theorem namesAgree_magnet_metadata :
    let magnet : AddTorrentParams :=
      { ti := none, name := [], savePath := StdString.ofString "C:\\Downloads", flags := 0,
        filePriorities := [], infoHashes := { v1 := 1, v2 := 0 } }
    let dialog := (create [magnet, { magnet with infoHashes := { v1 := 2, v2 := 0 } }]
      (List.cons_ne_nil _ _)).metadataFound
        { name := StdString.ofString "ubuntu.iso", totalSize := 1 <<< 30, comment := [],
          infoHashes := magnet.infoHashes }
    Reachable dialog ∧ NamesAgree dialog :=
  have reachable := Reachable.metadataFound _ (Reachable.create _ _)
  ⟨reachable, namesAgree_of_reachable reachable⟩

end AddTorrentDialog

end PicoTorrent
