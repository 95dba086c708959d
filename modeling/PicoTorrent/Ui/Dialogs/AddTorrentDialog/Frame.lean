import PicoTorrent.Ui.Dialogs.AddTorrentDialog.Widgets

namespace PicoTorrent

theorem set_of_getElem?_eq {l : List α} {i : Nat} {value : α}
    (stored : l[i]? = some value) : l.set i value = l :=
  List.ext_getElem? fun j => by
    by_cases same : i = j
    · subst same
      obtain ⟨inside, -⟩ := List.getElem?_eq_some_iff.mp stored
      rw [List.getElem?_set_self inside, stored]
    · rw [List.getElem?_set_ne same]

namespace AddTorrentDialog

/-! Which entry, field and flag bits each user event may change. -/

theorem params_onSequentialDownload (dialog : AddTorrentDialog) :
    (onSequentialDownload dialog).params =
      dialog.params.set dialog.selection
        { dialog.selected with flags := (onSequentialDownload dialog).selected.flags } := by
  rw [← selected_onSequentialDownload]
  unfold onSequentialDownload
  rw [params_modifySelected, selected_modifySelected]

theorem params_onStartTorrent (dialog : AddTorrentDialog) :
    (onStartTorrent dialog).params =
      dialog.params.set dialog.selection
        { dialog.selected with flags := (onStartTorrent dialog).selected.flags } := by
  rw [← selected_onStartTorrent]
  unfold onStartTorrent
  rw [params_modifySelected, selected_modifySelected]

end AddTorrentDialog

end PicoTorrent
