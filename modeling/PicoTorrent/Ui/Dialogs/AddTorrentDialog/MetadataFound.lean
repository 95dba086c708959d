import PicoTorrent.Ui.Dialogs.AddTorrentDialog.Dialog

namespace PicoTorrent

namespace AddTorrentDialog

/-! `MetadataFound` all at once: the loop visits every index, and what it does at one
index touches no other entry and no other label. -/

/-- The entry `MetadataFound` leaves at index `i`: the metadata attached when the info
hashes are equal, and the save path written back by `Load` when it is the selected one. -/
def metadataEntry (dialog : AddTorrentDialog) (ti : TorrentInfo) (i : Nat)
    (params : AddTorrentParams) : AddTorrentParams :=
  if params.infoHashes = ti.infoHashes then
    if i = dialog.selection then
      { params with
        ti := some ti
        savePath := Utils.toStdString (WxString.fromUTF8 params.savePath) }
    else { params with ti := some ti }
  else params

/-- Whether entry `i` carries the info hashes of `ti`. -/
def HashesMatchAt (dialog : AddTorrentDialog) (ti : TorrentInfo) (i : Nat) : Prop :=
  dialog.params[i]?.map AddTorrentParams.infoHashes = some ti.infoHashes

instance (dialog : AddTorrentDialog) (ti : TorrentInfo) (i : Nat) :
    Decidable (dialog.HashesMatchAt ti i) :=
  inferInstanceAs (Decidable (_ = _))

/-- The loop of `MetadataFound` after visiting the indices below `visited`. -/
structure VisitedBelow (dialog : AddTorrentDialog) (ti : TorrentInfo) (visited : Nat)
    (result : AddTorrentDialog) : Prop where
  selection : result.selection = dialog.selection
  params : ∀ j : Nat, result.params[j]? = dialog.params[j]?.map fun entry =>
    if j < visited then metadataEntry dialog ti j entry else entry
  torrents : ∀ j : Nat, result.torrents[j]? = dialog.torrents[j]?.map fun label =>
    if j < visited ∧ dialog.HashesMatchAt ti j then ti.name else label
  widgets : result.widgets =
    if dialog.selection < visited ∧ dialog.selected.infoHashes = ti.infoHashes then
      loadedWidgets { dialog.selected with ti := some ti }
    else dialog.widgets

theorem visitedBelow_zero (dialog : AddTorrentDialog) (ti : TorrentInfo) :
    VisitedBelow dialog ti 0 dialog where
  selection := rfl
  params j := by simp
  torrents j := by simp
  widgets := by simp

theorem HashesMatchAt_iff {dialog : AddTorrentDialog} {ti : TorrentInfo} {j : Nat}
    {entry : AddTorrentParams} (stored : dialog.params[j]? = some entry) :
    dialog.HashesMatchAt ti j ↔ entry.infoHashes = ti.infoHashes := by
  simp [HashesMatchAt, stored]

section Visit

variable {dialog result : AddTorrentDialog} {ti : TorrentInfo} {visited : Nat}
  {entry : AddTorrentParams}

theorem VisitedBelow.params_set (below : VisitedBelow dialog ti visited result)
    (stored : dialog.params[visited]? = some entry) (resultInside : visited < result.params.length)
    (j : Nat) :
    (result.params.set visited (metadataEntry dialog ti visited entry))[j]? =
      dialog.params[j]?.map fun other =>
        if j < visited + 1 then metadataEntry dialog ti j other else other := by
  by_cases same : j = visited
  · subst same
    simp [List.getElem?_set_self resultInside, stored]
  · rw [List.getElem?_set_ne (Ne.symm same), below.params j]
    simp only [show j < visited + 1 ↔ j < visited by omega]

theorem VisitedBelow.torrents_set (below : VisitedBelow dialog ti visited result)
    (stored : dialog.params[visited]? = some entry) (hashes : entry.infoHashes = ti.infoHashes)
    (j : Nat) :
    (result.torrents.set visited ti.name)[j]? =
      dialog.torrents[j]?.map fun label =>
        if j < visited + 1 ∧ dialog.HashesMatchAt ti j then ti.name else label := by
  rw [List.getElem?_set', below.torrents j]
  by_cases same : visited = j
  · subst same
    simp [HashesMatchAt_iff stored, hashes]
    rfl
  · simp only [same, if_false, show j < visited + 1 ↔ j < visited by omega]

/-- A pass at an entry for other metadata changes nothing. -/
theorem VisitedBelow.skip (below : VisitedBelow dialog ti visited result)
    (stored : dialog.params[visited]? = some entry) (hashes : entry.infoHashes ≠ ti.infoHashes) :
    VisitedBelow dialog ti (visited + 1) result := by
  refine ⟨below.selection, fun j => ?_, fun j => ?_, ?_⟩
  · rw [below.params j]
    by_cases same : j = visited
    · subst same
      simp [stored, metadataEntry, hashes]
    · simp only [Nat.lt_succ_iff_lt_or_eq, same, or_false]
  · rw [below.torrents j]
    by_cases same : j = visited
    · subst same
      simp [HashesMatchAt_iff stored, hashes]
    · simp only [Nat.lt_succ_iff_lt_or_eq, same, or_false]
  · rw [below.widgets]
    by_cases same : dialog.selection = visited
    · have selectedEntry : dialog.selected = entry := selected_eq_of_getElem? (same ▸ stored)
      simp [same, selectedEntry, hashes]
    · simp only [Nat.lt_succ_iff_lt_or_eq, same, or_false]

/-- A pass at a matching entry that is not the selected one attaches the metadata. -/
theorem VisitedBelow.attach (below : VisitedBelow dialog ti visited result)
    (stored : dialog.params[visited]? = some entry) (resultInside : visited < result.params.length)
    (hashes : entry.infoHashes = ti.infoHashes) (unselected : visited ≠ dialog.selection) :
    VisitedBelow dialog ti (visited + 1)
      (result.attachMetadata visited { entry with ti := some ti }) := by
  have attachedEntry : metadataEntry dialog ti visited entry = { entry with ti := some ti } := by
    rw [metadataEntry, if_pos hashes, if_neg unselected]
  refine ⟨below.selection, fun j => ?_, below.torrents_set stored hashes, ?_⟩
  · rw [params_attachMetadata, ← attachedEntry]
    exact below.params_set stored resultInside j
  · rw [widgets_attachMetadata, below.widgets]
    simp only [Nat.lt_succ_iff_lt_or_eq, Ne.symm unselected, or_false]

/-- A pass at the selected entry, when it matches, attaches the metadata and runs `Load`. -/
theorem VisitedBelow.attachLoad (below : VisitedBelow dialog ti visited result)
    (stored : dialog.params[visited]? = some entry) (resultInside : visited < result.params.length)
    (hashes : entry.infoHashes = ti.infoHashes) (selectedVisited : visited = dialog.selection) :
    VisitedBelow dialog ti (visited + 1)
      (load (result.attachMetadata visited { entry with ti := some ti })) := by
  have onSelection : visited = result.selection := below.selection ▸ selectedVisited
  have selectedEntry : dialog.selected = entry :=
    selected_eq_of_getElem? (selectedVisited ▸ stored)
  have echoedEntry : metadataEntry dialog ti visited entry =
      { { entry with ti := some ti } with
        savePath := Utils.toStdString (WxString.fromUTF8 entry.savePath) } := by
    rw [metadataEntry, if_pos hashes, if_pos selectedVisited]
  refine ⟨below.selection, fun j => ?_, below.torrents_set stored hashes, ?_⟩
  · rw [params_load, selected_attachMetadata, if_pos onSelection, params_attachMetadata,
      selection_attachMetadata, ← onSelection, List.set_set, ← echoedEntry]
    exact below.params_set stored resultInside j
  · rw [widgets_load, selected_attachMetadata, if_pos onSelection,
      if_pos ⟨by omega, selectedEntry ▸ hashes⟩, selectedEntry]

/-- One pass of the loop keeps the invariant, one index further. -/
theorem VisitedBelow.visit (below : VisitedBelow dialog ti visited result)
    (inside : visited < dialog.params.length) :
    VisitedBelow dialog ti (visited + 1) (metadataFoundAt ti result visited) := by
  obtain ⟨entry, stored⟩ : ∃ entry, dialog.params[visited]? = some entry :=
    ⟨_, List.getElem?_eq_getElem inside⟩
  have current : result.params[visited]? = some entry := by
    simp [below.params visited, stored]
  obtain ⟨resultInside, currentEntry⟩ := List.getElem?_eq_some_iff.mp current
  unfold AddTorrentDialog.metadataFoundAt
  rw [dif_pos resultInside]
  simp only [List.get_eq_getElem, currentEntry]
  by_cases hashes : entry.infoHashes = ti.infoHashes
  · rw [if_pos hashes]
    by_cases selectedVisited : visited = dialog.selection
    · rw [if_pos (below.selection ▸ selectedVisited)]
      exact below.attachLoad stored resultInside hashes selectedVisited
    · rw [if_neg (below.selection.symm ▸ selectedVisited)]
      exact below.attach stored resultInside hashes selectedVisited
  · rw [if_neg hashes]
    exact below.skip stored hashes

end Visit

theorem visitedBelow_range (dialog : AddTorrentDialog) (ti : TorrentInfo) (visited : Nat)
    (bound : visited ≤ dialog.params.length) :
    VisitedBelow dialog ti visited ((List.range visited).foldl (metadataFoundAt ti) dialog) := by
  induction visited with
  | zero => exact visitedBelow_zero dialog ti
  | succ visited induction =>
      rw [List.range_succ, List.foldl_append, List.foldl_cons, List.foldl_nil]
      exact (induction (by omega)).visit (by omega)

section Closed

variable (dialog : AddTorrentDialog) (ti : TorrentInfo)

theorem visitedBelow_metadataFound :
    VisitedBelow dialog ti dialog.params.length (dialog.metadataFound ti) :=
  visitedBelow_range dialog ti _ le_rfl

@[simp] theorem selection_metadataFound :
    (dialog.metadataFound ti).selection = dialog.selection :=
  (visitedBelow_metadataFound dialog ti).selection

theorem getElem?_params_metadataFound (j : Nat) :
    (dialog.metadataFound ti).params[j]? = dialog.params[j]?.map (metadataEntry dialog ti j) := by
  rw [(visitedBelow_metadataFound dialog ti).params j]
  by_cases inside : j < dialog.params.length
  · simp only [inside, if_true]
  · rw [List.getElem?_eq_none (Nat.le_of_not_gt inside)]
    rfl

theorem getElem?_torrents_metadataFound (j : Nat) :
    (dialog.metadataFound ti).torrents[j]? = dialog.torrents[j]?.map fun label =>
      if dialog.HashesMatchAt ti j then ti.name else label := by
  rw [(visitedBelow_metadataFound dialog ti).torrents j]
  congr 1
  funext label
  by_cases inside : j < dialog.params.length
  · simp only [inside, true_and]
  · have outside : ¬ dialog.HashesMatchAt ti j := by
      simp [HashesMatchAt, List.getElem?_eq_none (Nat.le_of_not_gt inside)]
    simp only [inside, outside, false_and, if_false]

theorem widgets_metadataFound :
    (dialog.metadataFound ti).widgets =
      if dialog.selected.infoHashes = ti.infoHashes then
        loadedWidgets { dialog.selected with ti := some ti }
      else dialog.widgets := by
  rw [(visitedBelow_metadataFound dialog ti).widgets]
  simp only [dialog.selection_lt, true_and]

theorem selected_metadataFound :
    (dialog.metadataFound ti).selected =
      metadataEntry dialog ti dialog.selection dialog.selected := by
  apply selected_eq_of_getElem?
  rw [getElem?_params_metadataFound, selection_metadataFound, getElem?_selection]
  rfl

end Closed

/-- `MetadataFound` attaches the metadata to exactly the entries whose `info_hash_t`
equals the metadata's, v1 and v2 halves both, and changes nothing else in them, except that
the selected one, when it matches, gets back the save path that `Load` echoes through the
save-path box; it relabels exactly those entries, leaves every other entry and label as it
was, and reloads the controls exactly when the selected entry is one of them. -/
theorem metadataFound_effect (dialog : AddTorrentDialog) (ti : TorrentInfo) :
    (∀ j : Nat, (dialog.metadataFound ti).params[j]? =
      dialog.params[j]?.map fun entry =>
        if entry.infoHashes = ti.infoHashes then
          { entry with
            ti := some ti
            savePath :=
              if j = dialog.selection then Utils.toStdString (WxString.fromUTF8 entry.savePath)
              else entry.savePath }
        else entry) ∧
      (∀ j : Nat, (dialog.metadataFound ti).torrents[j]? =
        dialog.torrents[j]?.map fun label =>
          if dialog.HashesMatchAt ti j then ti.name else label) ∧
      (dialog.metadataFound ti).widgets =
        if dialog.selected.infoHashes = ti.infoHashes then
          loadedWidgets { dialog.selected with ti := some ti }
        else dialog.widgets := by
  refine ⟨fun j => ?_, getElem?_torrents_metadataFound dialog ti,
    widgets_metadataFound dialog ti⟩
  rw [getElem?_params_metadataFound]
  congr 1
  funext entry
  unfold metadataEntry
  split_ifs <;> rfl

/-- A magnet link naming only the v1 hash of a hybrid torrent: the entry knows one hash,
equal to the metadata's, but `operator==` of `info_hash_t` also compares the v2 half, so
`MetadataFound` leaves the entry without its metadata. -/
theorem metadataFound_skips_v1_magnet_of_hybrid :
    let magnet : AddTorrentParams :=
      { ti := none, name := [], savePath := [], flags := 0, filePriorities := [],
        infoHashes := { v1 := 1, v2 := 0 } }
    let hybrid : TorrentInfo :=
      { name := [], totalSize := 0, comment := [], infoHashes := { v1 := 1, v2 := 2 } }
    magnet.infoHashes.hasV1 = true ∧ magnet.infoHashes.hasV2 = false ∧
      magnet.infoHashes.v1 = hybrid.infoHashes.v1 ∧
      ((create [magnet] (List.cons_ne_nil _ _)).metadataFound hybrid).params = [magnet] := by
  decide

end AddTorrentDialog

end PicoTorrent
