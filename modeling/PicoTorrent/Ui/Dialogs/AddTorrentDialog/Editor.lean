import PicoTorrent.Ui.Dialogs.AddTorrentDialog.TorrentNames

namespace PicoTorrent

/-! What the add-torrent dialog is for: editing the parameters of the torrents it was opened
with.  `TorrentEditor` says what each user action and each metadata arrival does to those
parameters, reading nothing but them.  The dialog's handlers read the controls instead; the
dialog refines the editor along every run, because the controls always show the selected
torrent. -/

/-- The torrents' parameters and the selected one, without the controls that show them. -/
@[ext] structure TorrentEditor where
  params : List AddTorrentParams
  selection : Nat
  selection_lt : selection < params.length

namespace TorrentEditor

def selected (editor : TorrentEditor) : AddTorrentParams :=
  editor.params.get ⟨editor.selection, editor.selection_lt⟩

/-- Change the selected torrent's parameters. -/
def edit (editor : TorrentEditor) (change : AddTorrentParams → AddTorrentParams) :
    TorrentEditor where
  params := editor.params.set editor.selection (change editor.selected)
  selection := editor.selection
  selection_lt := by simpa using editor.selection_lt

/-- A torrent as the dialog shows it: its save path comes back from the save-path box, so
through `wxString::FromUTF8` and `Utils::toStdString`. -/
def shown (entry : AddTorrentParams) : AddTorrentParams :=
  { entry with savePath := Utils.toStdString (WxString.fromUTF8 entry.savePath) }

/-- Select entry `index` and show it. -/
def choose (editor : TorrentEditor) (index : Nat) (inside : index < editor.params.length) :
    TorrentEditor where
  params := editor.params.set index (shown (editor.params.get ⟨index, inside⟩))
  selection := index
  selection_lt := by simpa using inside

/-- The torrent is added paused: `paused` set and `auto_managed` clear. -/
def startsPaused (flags : TorrentFlags) : Bool :=
  flags.getLsbD TorrentFlags.pausedBit && !flags.getLsbD TorrentFlags.autoManagedBit

/-- Turn "start torrent" over: a torrent added paused becomes auto-managed and not paused,
any other becomes paused and not auto-managed. -/
def toggleStart (flags : TorrentFlags) : TorrentFlags :=
  if startsPaused flags then (flags ||| TorrentFlags.autoManaged) &&& ~~~TorrentFlags.paused
  else (flags &&& ~~~TorrentFlags.autoManaged) ||| TorrentFlags.paused

/-- What a user event does to the parameters. -/
def step (editor : TorrentEditor) : AddTorrentDialog.Event → Option TorrentEditor
  | .torrentChoice index =>
      if inside : index < editor.params.length then some (editor.choose index inside) else none
  | .savePathText text | .savePathBrowse (some text) =>
      some (editor.edit fun entry => { entry with savePath := Utils.toStdString text })
  | .savePathBrowse none => some editor
  | .sequentialDownloadClick =>
      some (editor.edit fun entry =>
        { entry with flags := entry.flags ^^^ TorrentFlags.sequentialDownload })
  | .startTorrentClick =>
      some (editor.edit fun entry => { entry with flags := toggleStart entry.flags })
  | .fileContextMenu false fileIndices (some item) =>
      some (editor.edit fun entry =>
        { entry with
          filePriorities :=
            AddTorrentDialog.setFilePriorities entry.filePriorities fileIndices item.priority })
  | .fileContextMenu _ _ _ => some editor

/-- The metadata of a torrent arrives: every entry with its info hashes gets it, and the
selected one among them is shown again. -/
def metadataFound (editor : TorrentEditor) (ti : TorrentInfo) : TorrentEditor where
  params := editor.params.mapIdx fun i entry =>
    if entry.infoHashes = ti.infoHashes then
      if i = editor.selection then shown { entry with ti := some ti }
      else { entry with ti := some ti }
    else entry
  selection := editor.selection
  selection_lt := by simpa using editor.selection_lt

/-- The editor of a new dialog: the first torrent selected and shown. -/
def create (params : List AddTorrentParams) (nonempty : params ≠ []) : TorrentEditor :=
  choose ⟨params, 0, List.length_pos.mpr nonempty⟩ 0 (List.length_pos.mpr nonempty)

theorem getElem?_selection (editor : TorrentEditor) :
    editor.params[editor.selection]? = some editor.selected := by
  simp [selected, List.getElem?_eq_getElem editor.selection_lt]

@[simp] theorem selected_edit (editor : TorrentEditor)
    (change : AddTorrentParams → AddTorrentParams) :
    (editor.edit change).selected = change editor.selected := by
  simp [selected, edit]

theorem edit_edit (editor : TorrentEditor) (change other : AddTorrentParams → AddTorrentParams) :
    (editor.edit change).edit other = editor.edit fun entry => other (change entry) := by
  ext1
  · simp [edit, selected]
  · rfl

/-- An edit leaves the parameters as they were exactly when it leaves the selected entry so. -/
theorem params_edit_eq_iff (editor : TorrentEditor)
    (change : AddTorrentParams → AddTorrentParams) :
    (editor.edit change).params = editor.params ↔ change editor.selected = editor.selected := by
  constructor
  · intro same
    have stored := congrArg (·[editor.selection]?) same
    simpa [edit, editor.selection_lt, getElem?_selection] using stored
  · intro same
    show editor.params.set editor.selection (change editor.selected) = editor.params
    rw [same]
    exact set_of_getElem?_eq editor.getElem?_selection

theorem getLsbD_toggleStart (flags : TorrentFlags) (i : Nat) :
    (toggleStart flags).getLsbD i =
      if i = TorrentFlags.pausedBit then !startsPaused flags
      else if i = TorrentFlags.autoManagedBit then startsPaused flags
      else flags.getLsbD i := by
  unfold toggleStart TorrentFlags.paused TorrentFlags.autoManaged
  cases startsPaused flags
  · exact (TorrentFlags.getLsbD_or_ofBit _ (by decide) _).trans
      (by rw [TorrentFlags.getLsbD_and_not_ofBit]; rfl)
  · exact (TorrentFlags.getLsbD_and_not_ofBit _ _ _).trans
      (by rw [TorrentFlags.getLsbD_or_ofBit _ (by decide)]; rfl)

@[simp] theorem startsPaused_toggleStart (flags : TorrentFlags) :
    startsPaused (toggleStart flags) = !startsPaused flags := by
  simp [startsPaused, getLsbD_toggleStart, TorrentFlags.pausedBit, TorrentFlags.autoManagedBit]

theorem getLsbD_toggleStart_toggleStart (flags : TorrentFlags) (i : Nat) :
    (toggleStart (toggleStart flags)).getLsbD i =
      if i = TorrentFlags.pausedBit then startsPaused flags
      else if i = TorrentFlags.autoManagedBit then !startsPaused flags
      else flags.getLsbD i := by
  by_cases paused : i = TorrentFlags.pausedBit
  · simp [getLsbD_toggleStart, paused]
  · by_cases managed : i = TorrentFlags.autoManagedBit <;>
      simp [getLsbD_toggleStart, paused, managed]

/-- Turning "start torrent" over twice gives back the flags of a torrent added paused, and
makes any other auto-managed and not paused, keeping its other bits. -/
theorem toggleStart_toggleStart (flags : TorrentFlags) :
    toggleStart (toggleStart flags) =
      if startsPaused flags then flags
      else (flags ||| TorrentFlags.autoManaged) &&& ~~~TorrentFlags.paused := by
  apply BitVec.eq_of_getLsbD_eq
  intro i
  rw [getLsbD_toggleStart_toggleStart]
  cases added : startsPaused flags
  · rw [if_neg Bool.false_ne_true, TorrentFlags.paused, TorrentFlags.getLsbD_and_not_ofBit,
      TorrentFlags.autoManaged, TorrentFlags.getLsbD_or_ofBit _ (by decide)]
    rfl
  · simp only [startsPaused, Bool.and_eq_true, Bool.not_eq_true'] at added
    rw [if_pos rfl]
    split_ifs with paused managed
    · rw [paused, added.1]
    · rw [managed, added.2]
      rfl
    · rfl

end TorrentEditor

/-- What reaches an open dialog: a user event, or the metadata of a torrent. -/
inductive DialogInput where
  | user (event : AddTorrentDialog.Event)
  | metadata (ti : TorrentInfo)

namespace TorrentEditor

def input (editor : TorrentEditor) : DialogInput → Option TorrentEditor
  | .user event => editor.step event
  | .metadata ti => some (editor.metadataFound ti)

/-- The inputs in order, up to the first the editor cannot take. -/
def run (editor : TorrentEditor) : List DialogInput → Option TorrentEditor
  | [] => some editor
  | first :: rest => (editor.input first).bind fun next => next.run rest

end TorrentEditor

namespace AddTorrentDialog

def input (dialog : AddTorrentDialog) : DialogInput → Option AddTorrentDialog
  | .user event => dialog.step event
  | .metadata ti => some (dialog.metadataFound ti)

/-- The inputs in order, up to the first the dialog cannot take: a choice of an entry
`wxChoice` does not hold, which `wxChoice` never sends. -/
def run (dialog : AddTorrentDialog) : List DialogInput → Option AddTorrentDialog
  | [] => some dialog
  | first :: rest => (dialog.input first).bind fun next => next.run rest

/-- The editor behind a dialog. -/
def toEditor (dialog : AddTorrentDialog) : TorrentEditor :=
  ⟨dialog.params, dialog.selection, dialog.selection_lt⟩

@[simp] theorem params_toEditor (dialog : AddTorrentDialog) :
    dialog.toEditor.params = dialog.params := rfl

@[simp] theorem selection_toEditor (dialog : AddTorrentDialog) :
    dialog.toEditor.selection = dialog.selection := rfl

@[simp] theorem selected_toEditor (dialog : AddTorrentDialog) :
    dialog.toEditor.selected = dialog.selected := rfl

/-- The selected entry does not depend on the controls. -/
@[simp] theorem selected_withWidgets (dialog : AddTorrentDialog) (widgets : Widgets) :
    ({ dialog with widgets } : AddTorrentDialog).selected = dialog.selected := rfl

/-- A handler that writes the selected entry edits the editor as any change that agrees
with it on that entry. -/
theorem toEditor_modifySelected (dialog : AddTorrentDialog)
    {change other : AddTorrentParams → AddTorrentParams}
    (same : change dialog.selected = other dialog.selected) :
    (dialog.modifySelected change).toEditor = dialog.toEditor.edit other := by
  ext1
  · simp [TorrentEditor.edit, same]
  · rfl

section Refinement

variable {dialog : AddTorrentDialog}

/-- The sequential-download handler flips the flag, since the box it reads showed the flag
before the click. -/
theorem toEditor_sequentialDownloadClick (agree : WidgetsAgree dialog) :
    (onSequentialDownload
        { dialog with
          widgets :=
            { dialog.widgets with sequentialDownload := !dialog.widgets.sequentialDownload } }).toEditor =
      dialog.toEditor.edit fun entry =>
        { entry with flags := entry.flags ^^^ TorrentFlags.sequentialDownload } := by
  apply toEditor_modifySelected
  simp only [selected_withWidgets, agree.sequentialDownload, TorrentFlags.sequentialDownload,
    TorrentFlags.xor_ofBit_eq _ (show TorrentFlags.sequentialDownloadBit < 64 by decide)]
  cases dialog.selected.flags.getLsbD TorrentFlags.sequentialDownloadBit <;> rfl

/-- The start handler turns "start torrent" over, since the box it reads showed whether the
torrent was added paused. -/
theorem toEditor_startTorrentClick (agree : WidgetsAgree dialog) :
    (onStartTorrent
        { dialog with
          widgets := { dialog.widgets with startTorrent := !dialog.widgets.startTorrent } }).toEditor =
      dialog.toEditor.edit fun entry =>
        { entry with flags := TorrentEditor.toggleStart entry.flags } := by
  apply toEditor_modifySelected
  simp only [selected_withWidgets, agree.startTorrent, Bool.not_not, TorrentEditor.toggleStart,
    TorrentEditor.startsPaused]
  cases dialog.selected.flags.getLsbD TorrentFlags.pausedBit &&
    !dialog.selected.flags.getLsbD TorrentFlags.autoManagedBit <;> rfl

/-- One user event does to the dialog's parameters and selection what it does to the
editor's, in every state whose controls show the selected torrent. -/
theorem toEditor_step (agree : WidgetsAgree dialog) (event : Event) :
    (dialog.step event).map toEditor = dialog.toEditor.step event := by
  cases event with
  | torrentChoice index =>
      simp only [step, TorrentEditor.step, toEditor]
      split <;> rfl
  | savePathText text => rfl
  | savePathBrowse chosen => cases chosen <;> rfl
  | sequentialDownloadClick => exact congrArg some (toEditor_sequentialDownloadClick agree)
  | startTorrentClick => exact congrArg some (toEditor_startTorrentClick agree)
  | fileContextMenu itemsEmpty fileIndices chosen =>
      cases itemsEmpty <;> cases chosen <;> rfl

theorem toEditor_metadataFound (ti : TorrentInfo) :
    (dialog.metadataFound ti).toEditor = dialog.toEditor.metadataFound ti := by
  ext1
  · refine List.ext_getElem? fun j => ?_
    rw [params_toEditor, getElem?_params_metadataFound]
    simp only [TorrentEditor.metadataFound, params_toEditor, List.getElem?_mapIdx]
    rfl
  · exact selection_metadataFound dialog ti

theorem toEditor_run (agree : WidgetsAgree dialog) (inputs : List DialogInput) :
    (dialog.run inputs).map toEditor = dialog.toEditor.run inputs := by
  induction inputs generalizing dialog with
  | nil => rfl
  | cons first rest induction =>
      cases first with
      | user event =>
          simp only [run, input, TorrentEditor.run, TorrentEditor.input, ← toEditor_step agree]
          cases stepped : dialog.step event with
          | none => rfl
          | some next => exact induction (agree.step stepped)
      | metadata ti =>
          simp only [run, input, TorrentEditor.run, TorrentEditor.input, Option.some_bind,
            ← toEditor_metadataFound]
          exact induction (agree.metadataFound ti)

/-- The parameters a run leaves are the editor's. -/
theorem params_run (agree : WidgetsAgree dialog) (inputs : List DialogInput) :
    (dialog.run inputs).map AddTorrentDialog.params =
      (dialog.toEditor.run inputs).map TorrentEditor.params := by
  rw [← toEditor_run agree, Option.map_map]
  rfl

end Refinement

theorem toEditor_create (params : List AddTorrentParams) (nonempty : params ≠ []) :
    (create params nonempty).toEditor = TorrentEditor.create params nonempty := rfl

/-- The dialog edits `m_params` as its editor does: for every list of torrents and every
sequence of user events and metadata arrivals, the dialog opened on them takes the same
inputs as the editor, and ends with the same parameters and the same selection, although
its handlers read the controls where the editor reads the parameters. -/
theorem toEditor_run_create (params : List AddTorrentParams) (nonempty : params ≠ [])
    (inputs : List DialogInput) :
    ((create params nonempty).run inputs).map toEditor =
      (TorrentEditor.create params nonempty).run inputs := by
  have agree : WidgetsAgree (create params nonempty) := widgetsAgree_load _
  rw [toEditor_run agree, toEditor_create]

theorem toEditor_run_create_magnet :
    let magnet : AddTorrentParams :=
      { ti := none, name := [], savePath := StdString.ofString "C:\\Downloads", flags := 0,
        filePriorities := [], infoHashes := { v1 := 1, v2 := 0 } }
    let ti : TorrentInfo :=
      { name := StdString.ofString "ubuntu.iso", totalSize := 1 <<< 30, comment := [],
        infoHashes := magnet.infoHashes }
    let inputs : List DialogInput :=
      [.user .sequentialDownloadClick, .user .startTorrentClick, .metadata ti]
    [magnet] ≠ [] ∧
      ((create [magnet] (List.cons_ne_nil _ _)).run inputs).map toEditor =
        (TorrentEditor.create [magnet] (List.cons_ne_nil _ _)).run inputs :=
  ⟨List.cons_ne_nil _ _, toEditor_run_create _ _ _⟩

/-- Two clicks on a checkbox, in every state whose controls show the selected torrent, as
every state the dialog reaches does.  Two clicks on "sequential download" give `m_params`
back as it was.  Two clicks on "start torrent" change no other entry or field, and give back
the flags of a torrent added paused; of any other torrent they set `auto_managed` and clear
`paused`, keeping every other bit: from both set, libtorrent's default for new parameters,
they clear `paused`, and from neither they set `auto_managed`. -/
theorem checkboxes_clicked_twice {dialog : AddTorrentDialog} (agree : WidgetsAgree dialog) :
    (dialog.run [.user .sequentialDownloadClick, .user .sequentialDownloadClick]).map
        AddTorrentDialog.params = some dialog.params ∧
      (dialog.run [.user .startTorrentClick, .user .startTorrentClick]).map
          AddTorrentDialog.params =
        some (dialog.params.set dialog.selection
          { dialog.selected with
            flags :=
              if TorrentEditor.startsPaused dialog.selected.flags then dialog.selected.flags
              else (dialog.selected.flags ||| TorrentFlags.autoManaged) &&&
                ~~~TorrentFlags.paused }) := by
  rw [params_run agree, params_run agree]
  simp only [TorrentEditor.run, TorrentEditor.input, TorrentEditor.step, Option.some_bind,
    TorrentEditor.edit_edit, Option.map_some']
  refine ⟨congrArg some ((dialog.toEditor.params_edit_eq_iff _).mpr
    (by rw [BitVec.xor_assoc, BitVec.xor_self, BitVec.xor_zero])), ?_⟩
  rw [← TorrentEditor.toggleStart_toggleStart]
  rfl

theorem checkboxes_clicked_twice_default_flags :
    let added : AddTorrentParams :=
      { ti := none, name := [], savePath := StdString.ofString "C:\\Downloads",
        flags := TorrentFlags.paused ||| TorrentFlags.autoManaged, filePriorities := [],
        infoHashes := { v1 := 1, v2 := 0 } }
    let dialog := create [added] (List.cons_ne_nil _ _)
    WidgetsAgree dialog ∧
      (dialog.run [.user .sequentialDownloadClick, .user .sequentialDownloadClick]).map
          AddTorrentDialog.params = some dialog.params ∧
        (dialog.run [.user .startTorrentClick, .user .startTorrentClick]).map
            AddTorrentDialog.params =
          some (dialog.params.set dialog.selection
            { dialog.selected with
              flags :=
                if TorrentEditor.startsPaused dialog.selected.flags then dialog.selected.flags
                else (dialog.selected.flags ||| TorrentFlags.autoManaged) &&&
                  ~~~TorrentFlags.paused }) :=
  have agree := widgetsAgree_load _
  ⟨agree, checkboxes_clicked_twice agree⟩

end AddTorrentDialog

end PicoTorrent
