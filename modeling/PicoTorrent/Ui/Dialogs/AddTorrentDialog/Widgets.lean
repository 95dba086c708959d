import PicoTorrent.Ui.Dialogs.AddTorrentDialog.MetadataFound

namespace PicoTorrent

namespace AddTorrentDialog

/-! What the handlers do to the selected entry. -/

theorem getLsbD_onSequentialDownload (dialog : AddTorrentDialog) (i : Nat) :
    (onSequentialDownload dialog).selected.flags.getLsbD i =
      if i = TorrentFlags.sequentialDownloadBit then dialog.widgets.sequentialDownload
      else dialog.selected.flags.getLsbD i := by
  unfold onSequentialDownload TorrentFlags.sequentialDownload
  rw [selected_modifySelected]
  cases dialog.widgets.sequentialDownload
  · exact TorrentFlags.getLsbD_and_not_ofBit _ _ _
  · exact TorrentFlags.getLsbD_or_ofBit _ (by decide) _

theorem getLsbD_onStartTorrent (dialog : AddTorrentDialog) (i : Nat) :
    (onStartTorrent dialog).selected.flags.getLsbD i =
      if i = TorrentFlags.pausedBit then !dialog.widgets.startTorrent
      else if i = TorrentFlags.autoManagedBit then dialog.widgets.startTorrent
      else dialog.selected.flags.getLsbD i := by
  unfold onStartTorrent TorrentFlags.paused TorrentFlags.autoManaged
  rw [selected_modifySelected]
  cases dialog.widgets.startTorrent
  · exact (TorrentFlags.getLsbD_or_ofBit _ (by decide) _).trans
      (by rw [TorrentFlags.getLsbD_and_not_ofBit]; rfl)
  · exact (TorrentFlags.getLsbD_and_not_ofBit _ _ _).trans
      (by rw [TorrentFlags.getLsbD_or_ofBit _ (by decide)]; rfl)

theorem selected_onSequentialDownload (dialog : AddTorrentDialog) :
    (onSequentialDownload dialog).selected =
      { dialog.selected with flags := (onSequentialDownload dialog).selected.flags } := by
  unfold onSequentialDownload
  rw [selected_modifySelected]
  split <;> rfl

theorem selected_onStartTorrent (dialog : AddTorrentDialog) :
    (onStartTorrent dialog).selected =
      { dialog.selected with flags := (onStartTorrent dialog).selected.flags } := by
  unfold onStartTorrent
  rw [selected_modifySelected]
  split <;> rfl

/-! The controls never disagree with the selected torrent's parameters. -/

/-- The info labels describe the selected torrent, the save-path box shows its save path,
each checkbox shows its flags, and the file view shows its metadata with its priorities. -/
structure WidgetsAgree (dialog : AddTorrentDialog) : Prop where
  labels : dialog.widgets.labels = displayLabels dialog.selected
  savePath : dialog.widgets.savePath = WxString.fromUTF8 dialog.selected.savePath
  sequentialDownload :
    dialog.widgets.sequentialDownload =
      dialog.selected.flags.getLsbD TorrentFlags.sequentialDownloadBit
  startTorrent :
    dialog.widgets.startTorrent =
      !(dialog.selected.flags.getLsbD TorrentFlags.pausedBit &&
        !dialog.selected.flags.getLsbD TorrentFlags.autoManagedBit)
  files :
    dialog.widgets.files = dialog.selected.ti.map fun ti => (ti, dialog.selected.filePriorities)

/-- After `Load` of `entry`: the controls show `entry`, and the selected entry is `entry`
with its save path written back through `wxEVT_TEXT`. -/
theorem widgetsAgree_of_loaded {dialog : AddTorrentDialog} {entry : AddTorrentParams}
    (shown : dialog.widgets = loadedWidgets entry)
    (echoed : dialog.selected =
      { entry with savePath := Utils.toStdString (WxString.fromUTF8 entry.savePath) }) :
    WidgetsAgree dialog where
  labels := by
    rw [shown, echoed, labels_loadedWidgets]
    exact displayLabels_congr rfl rfl rfl
  savePath := by rw [shown, echoed]; simp
  sequentialDownload := by rw [shown, echoed]; simp
  startTorrent := by rw [shown, echoed]; simp
  files := by rw [shown, echoed]; simp

theorem widgetsAgree_load (dialog : AddTorrentDialog) : WidgetsAgree dialog.load :=
  widgetsAgree_of_loaded (widgets_load dialog) (selected_load dialog)

/-- `UpdatePriorities` brings the file view up to the selected priorities, after a change
of those priorities alone. -/
theorem widgetsAgree_updatePriorities {dialog before : AddTorrentDialog}
    (agree : WidgetsAgree before) (widgets : dialog.widgets = before.widgets)
    (selected : dialog.selected =
      { before.selected with filePriorities := dialog.selected.filePriorities }) :
    WidgetsAgree dialog.updatePriorities := by
  refine ⟨?_, ?_, ?_, ?_, ?_⟩ <;>
    rw [widgets_updatePriorities, selected_updatePriorities, widgets, selected]
  · exact agree.labels.trans (displayLabels_congr rfl rfl rfl)
  · exact agree.savePath
  · exact agree.sequentialDownload
  · exact agree.startTorrent
  · rw [agree.files, Option.map_map]
    rfl

namespace WidgetsAgree

variable {dialog : AddTorrentDialog}

theorem congr (agree : WidgetsAgree dialog) {next : AddTorrentDialog}
    (widgets : next.widgets = dialog.widgets) (selected : next.selected = dialog.selected) :
    WidgetsAgree next := by
  obtain ⟨labels, savePath, sequentialDownload, startTorrent, files⟩ := agree
  exact ⟨widgets ▸ selected ▸ labels, widgets ▸ selected ▸ savePath,
    widgets ▸ selected ▸ sequentialDownload, widgets ▸ selected ▸ startTorrent,
    widgets ▸ selected ▸ files⟩

theorem setSavePathValue (agree : WidgetsAgree dialog) (text : WxString) :
    WidgetsAgree (dialog.setSavePathValue text) where
  labels := by
    rw [widgets_setSavePathValue, selected_setSavePathValue]
    exact agree.labels.trans (displayLabels_congr rfl rfl rfl)
  savePath := by simp
  sequentialDownload := by simpa using agree.sequentialDownload
  startTorrent := by simpa using agree.startTorrent
  files := by simpa using agree.files

theorem sequentialDownloadClick (agree : WidgetsAgree dialog) :
    WidgetsAgree
      (onSequentialDownload
        { dialog with
          widgets :=
            { dialog.widgets with
              sequentialDownload := !dialog.widgets.sequentialDownload } }) where
  labels := by
    rw [selected_onSequentialDownload]
    exact agree.labels.trans (displayLabels_congr rfl rfl rfl)
  savePath := by
    rw [selected_onSequentialDownload]
    exact agree.savePath
  sequentialDownload := by
    rw [getLsbD_onSequentialDownload, if_pos rfl]
    rfl
  startTorrent := by
    simp only [getLsbD_onSequentialDownload]
    exact agree.startTorrent
  files := by
    rw [selected_onSequentialDownload]
    exact agree.files

theorem startTorrentClick (agree : WidgetsAgree dialog) :
    WidgetsAgree
      (onStartTorrent
        { dialog with
          widgets := { dialog.widgets with startTorrent := !dialog.widgets.startTorrent } }) where
  labels := by
    rw [selected_onStartTorrent]
    exact agree.labels.trans (displayLabels_congr rfl rfl rfl)
  savePath := by
    rw [selected_onStartTorrent]
    exact agree.savePath
  sequentialDownload := by
    simp only [getLsbD_onStartTorrent]
    exact agree.sequentialDownload
  startTorrent := by
    simp only [getLsbD_onStartTorrent]
    cases dialog.widgets.startTorrent <;> rfl
  files := by
    rw [selected_onStartTorrent]
    exact agree.files

theorem showFileContextMenu (agree : WidgetsAgree dialog) (itemsEmpty : Bool)
    (fileIndices : List Nat) (chosen : Option PriorityMenuItem) :
    WidgetsAgree (dialog.showFileContextMenu itemsEmpty fileIndices chosen) := by
  unfold AddTorrentDialog.showFileContextMenu
  split
  · exact agree
  · cases chosen with
    | none => exact widgetsAgree_updatePriorities agree rfl rfl
    | some item =>
        exact widgetsAgree_updatePriorities agree rfl
          (by rw [onPriorityMenu, selected_modifySelected])

theorem step (agree : WidgetsAgree dialog) {event : Event} {next : AddTorrentDialog}
    (stepped : dialog.step event = some next) : WidgetsAgree next := by
  rcases step_cases stepped with ⟨_, _, -, rfl⟩ | ⟨text, -, rfl⟩ | ⟨-, rfl⟩ | ⟨-, rfl⟩ |
    ⟨-, rfl⟩ | ⟨_, _, _, -, rfl⟩
  · exact widgetsAgree_load _
  · exact agree.setSavePathValue text
  · exact agree
  · exact agree.sequentialDownloadClick
  · exact agree.startTorrentClick
  · exact agree.showFileContextMenu _ _ _

theorem metadataFound (agree : WidgetsAgree dialog) (ti : TorrentInfo) :
    WidgetsAgree (dialog.metadataFound ti) := by
  by_cases hashes : dialog.selected.infoHashes = ti.infoHashes
  · apply widgetsAgree_of_loaded
    · rw [widgets_metadataFound, if_pos hashes]
    · rw [selected_metadataFound, metadataEntry, if_pos hashes, if_pos rfl]
  · apply agree.congr
    · rw [widgets_metadataFound, if_neg hashes]
    · rw [selected_metadataFound, metadataEntry, if_neg hashes]

end WidgetsAgree

/-- The controls agree with the selected torrent's parameters in every state the dialog
reaches, whatever the order of the user's events and of metadata arrivals. -/
theorem widgetsAgree_of_reachable {dialog : AddTorrentDialog} (reachable : Reachable dialog) :
    WidgetsAgree dialog := by
  induction reachable with
  | create params nonempty => exact widgetsAgree_load _
  | step event _ stepped agree => exact agree.step stepped
  | metadataFound ti _ agree => exact agree.metadataFound ti

theorem widgetsAgree_magnet_metadata :
    let magnet : AddTorrentParams :=
      { ti := none, name := [], savePath := StdString.ofString "C:\\Downloads", flags := 0,
        filePriorities := [], infoHashes := { v1 := 1, v2 := 0 } }
    let dialog := (create [magnet] (List.cons_ne_nil _ _)).metadataFound
      { name := StdString.ofString "ubuntu.iso", totalSize := 1 <<< 30, comment := [],
        infoHashes := magnet.infoHashes }
    Reachable dialog ∧ WidgetsAgree dialog :=
  have reachable := Reachable.metadataFound _ (Reachable.create _ _)
  ⟨reachable, widgetsAgree_of_reachable reachable⟩

end AddTorrentDialog

end PicoTorrent
