import PicoTorrent.Ui.Dialogs.AddTorrentDialog.FilePriorities

namespace PicoTorrent

/-! The add-torrent dialog as a state machine: the vector `m_params` it edits in place,
the selection of `m_torrents`, its strings, and the controls a handler or `Load` sets. -/

/-- The texts of the four info labels. -/
structure Labels where
  torrentName : StdString
  /-- The size `Utils::toHumanFileSize` formats, or `none` for `"-"`. -/
  torrentSize : Option Nat
  torrentInfoHash : StdString
  torrentComment : StdString
  deriving DecidableEq

/-- The controls of the dialog whose value a handler or `Load` sets. -/
structure Widgets where
  labels : Labels
  /-- The value of `m_torrentSavePath`. -/
  savePath : WxString
  sequentialDownload : Bool
  startTorrent : Bool
  /-- What `m_filesModel` shows: the file tree of a `torrent_info` with these
  priorities, or nothing after `Cleared()`. -/
  files : Option (TorrentInfo × List DownloadPriority)
  deriving DecidableEq

structure AddTorrentDialog where
  params : List AddTorrentParams
  /-- `m_torrents->GetSelection()`. -/
  selection : Nat
  selection_lt : selection < params.length
  /-- The strings of `m_torrents`. -/
  torrents : List StdString
  widgets : Widgets

namespace AddTorrentDialog

/-- `m_params.at(m_torrents->GetSelection())`. -/
def selected (dialog : AddTorrentDialog) : AddTorrentParams :=
  dialog.params.get ⟨dialog.selection, dialog.selection_lt⟩

theorem getElem?_selection (dialog : AddTorrentDialog) :
    dialog.params[dialog.selection]? = some dialog.selected := by
  simp [selected, List.getElem?_eq_getElem dialog.selection_lt]

theorem selected_eq_of_getElem? {dialog : AddTorrentDialog} {entry : AddTorrentParams}
    (stored : dialog.params[dialog.selection]? = some entry) : dialog.selected = entry := by
  rw [getElem?_selection] at stored
  exact Option.some.inj stored

/-- Write through the reference `m_params.at(m_torrents->GetSelection())`. -/
def modifySelected (dialog : AddTorrentDialog)
    (change : AddTorrentParams → AddTorrentParams) : AddTorrentDialog :=
  { dialog with
    params := dialog.params.set dialog.selection (change dialog.selected)
    selection_lt := by simpa using dialog.selection_lt }

section ModifySelected

variable (dialog : AddTorrentDialog) (change : AddTorrentParams → AddTorrentParams)

@[simp] theorem params_modifySelected :
    (dialog.modifySelected change).params =
      dialog.params.set dialog.selection (change dialog.selected) := rfl

@[simp] theorem selection_modifySelected :
    (dialog.modifySelected change).selection = dialog.selection := rfl

@[simp] theorem torrents_modifySelected :
    (dialog.modifySelected change).torrents = dialog.torrents := rfl

@[simp] theorem widgets_modifySelected :
    (dialog.modifySelected change).widgets = dialog.widgets := rfl

@[simp] theorem selected_modifySelected :
    (dialog.modifySelected change).selected = change dialog.selected := by
  simp [selected, modifySelected]

end ModifySelected

def getTorrentDisplayName (params : AddTorrentParams) : StdString :=
  match params.ti with
  | some ti => ti.name
  | none =>
      if params.name.length > 0 then params.name
      else
        (if params.infoHashes.hasV2 then toHex 64 params.infoHashes.v2.toNat else []) ++
          (if params.infoHashes.hasV1 then toHex 40 params.infoHashes.v1.toNat else [])

def getTorrentDisplaySize (params : AddTorrentParams) : Option Nat :=
  params.ti.map TorrentInfo.totalSize

/-- The v2 hash when there is one, else the v1 hash. -/
def displayInfoHash (hashes : InfoHash) : StdString :=
  if hashes.hasV2 then toHex 64 hashes.v2.toNat else toHex 40 hashes.v1.toNat

def getTorrentDisplayInfoHash (params : AddTorrentParams) : StdString :=
  match params.ti with
  | some ti => displayInfoHash ti.infoHashes
  | none =>
      if params.infoHashes.hasV1 || params.infoHashes.hasV2 then displayInfoHash params.infoHashes
      else StdString.ofString "-"

def getTorrentDisplayComment (params : AddTorrentParams) : StdString :=
  match params.ti with
  | some ti => ti.comment
  | none => StdString.ofString "-"

def displayLabels (params : AddTorrentParams) : Labels where
  torrentName := getTorrentDisplayName params
  torrentSize := getTorrentDisplaySize params
  torrentInfoHash := getTorrentDisplayInfoHash params
  torrentComment := getTorrentDisplayComment params

/-- The labels read only the metadata, the name and the info hashes. -/
theorem displayLabels_congr {params other : AddTorrentParams} (ti : other.ti = params.ti)
    (name : other.name = params.name) (infoHashes : other.infoHashes = params.infoHashes) :
    displayLabels other = displayLabels params := by
  simp only [displayLabels, getTorrentDisplayName, getTorrentDisplaySize,
    getTorrentDisplayInfoHash, getTorrentDisplayComment, ti, name, infoHashes]

/-! The handlers bound in the constructor.  wxWidgets has already updated the control
when a handler runs, so each handler reads the control's new value. -/

/-- `wxEVT_TEXT` on `m_torrentSavePath`. -/
def onSavePathText (dialog : AddTorrentDialog) : AddTorrentDialog :=
  dialog.modifySelected fun params =>
    { params with savePath := Utils.toStdString dialog.widgets.savePath }

/-- `wxComboBox::SetValue`, which sends `wxEVT_TEXT`. -/
def setSavePathValue (dialog : AddTorrentDialog) (text : WxString) : AddTorrentDialog :=
  onSavePathText { dialog with widgets := { dialog.widgets with savePath := text } }

/-- `wxEVT_BUTTON` on the browse button; `chosen` is `none` when the directory dialog
is cancelled. -/
def onSavePathBrowse (dialog : AddTorrentDialog) (chosen : Option WxString) :
    AddTorrentDialog :=
  match chosen with
  | none => dialog
  | some path => dialog.setSavePathValue path

/-- `wxEVT_CHECKBOX` on `m_sequentialDownload`. -/
def onSequentialDownload (dialog : AddTorrentDialog) : AddTorrentDialog :=
  dialog.modifySelected fun params =>
    if dialog.widgets.sequentialDownload then
      { params with flags := params.flags ||| TorrentFlags.sequentialDownload }
    else
      { params with flags := params.flags &&& ~~~TorrentFlags.sequentialDownload }

/-- `wxEVT_CHECKBOX` on `m_startTorrent`. -/
def onStartTorrent (dialog : AddTorrentDialog) : AddTorrentDialog :=
  dialog.modifySelected fun params =>
    if dialog.widgets.startTorrent then
      { params with
        flags := (params.flags ||| TorrentFlags.autoManaged) &&& ~~~TorrentFlags.paused }
    else
      { params with
        flags := (params.flags &&& ~~~TorrentFlags.autoManaged) ||| TorrentFlags.paused }

/-- `isPaused` of `Load`. -/
def isPaused (flags : TorrentFlags) : Bool :=
  (flags &&& TorrentFlags.paused == TorrentFlags.paused) &&
    (flags &&& TorrentFlags.autoManaged != TorrentFlags.autoManaged)

/-- What `Load` puts into the controls for these parameters. -/
def loadedWidgets (params : AddTorrentParams) : Widgets where
  labels := displayLabels params
  savePath := WxString.fromUTF8 params.savePath
  sequentialDownload :=
    params.flags &&& TorrentFlags.sequentialDownload == TorrentFlags.sequentialDownload
  startTorrent := !isPaused params.flags
  files := params.ti.map fun ti => (ti, params.filePriorities)

/-- `Load(index)`.  Every caller passes the selection: the choice handler after
`wxChoice` has moved it, `MetadataFound` when `i == GetSelection()`, and the constructor
after `Select(0)`.  Setting the save path sends `wxEVT_TEXT`, whose handler writes the
shown text back into the selected parameters. -/
def load (dialog : AddTorrentDialog) : AddTorrentDialog :=
  { dialog.setSavePathValue (WxString.fromUTF8 dialog.selected.savePath) with
    widgets := loadedWidgets dialog.selected }

section Load

variable (dialog : AddTorrentDialog) (text : WxString)

@[simp] theorem selection_setSavePathValue :
    (dialog.setSavePathValue text).selection = dialog.selection := rfl

@[simp] theorem torrents_setSavePathValue :
    (dialog.setSavePathValue text).torrents = dialog.torrents := rfl

@[simp] theorem widgets_setSavePathValue :
    (dialog.setSavePathValue text).widgets = { dialog.widgets with savePath := text } := rfl

@[simp] theorem params_setSavePathValue :
    (dialog.setSavePathValue text).params =
      dialog.params.set dialog.selection
        { dialog.selected with savePath := Utils.toStdString text } := rfl

@[simp] theorem selected_setSavePathValue :
    (dialog.setSavePathValue text).selected =
      { dialog.selected with savePath := Utils.toStdString text } :=
  selected_modifySelected _ _

@[simp] theorem selection_load : dialog.load.selection = dialog.selection := rfl

@[simp] theorem torrents_load : dialog.load.torrents = dialog.torrents := rfl

@[simp] theorem widgets_load : dialog.load.widgets = loadedWidgets dialog.selected := rfl

@[simp] theorem params_load :
    dialog.load.params =
      dialog.params.set dialog.selection
        { dialog.selected with
          savePath := Utils.toStdString (WxString.fromUTF8 dialog.selected.savePath) } := rfl

@[simp] theorem selected_load :
    dialog.load.selected =
      { dialog.selected with
        savePath := Utils.toStdString (WxString.fromUTF8 dialog.selected.savePath) } :=
  selected_setSavePathValue _ _

end Load

section LoadedWidgets

variable (params : AddTorrentParams)

@[simp] theorem labels_loadedWidgets :
    (loadedWidgets params).labels = displayLabels params := rfl

@[simp] theorem savePath_loadedWidgets :
    (loadedWidgets params).savePath = WxString.fromUTF8 params.savePath := rfl

@[simp] theorem files_loadedWidgets :
    (loadedWidgets params).files = params.ti.map fun ti => (ti, params.filePriorities) := rfl

/-- `Load` checks the sequential-download box exactly when the flag's bit is set. -/
@[simp] theorem sequentialDownload_loadedWidgets :
    (loadedWidgets params).sequentialDownload =
      params.flags.getLsbD TorrentFlags.sequentialDownloadBit :=
  TorrentFlags.and_ofBit_beq_ofBit _ (by decide)

/-- `Load` clears the start box exactly when `paused` is set and `auto_managed` clear. -/
@[simp] theorem startTorrent_loadedWidgets :
    (loadedWidgets params).startTorrent =
      !(params.flags.getLsbD TorrentFlags.pausedBit &&
        !params.flags.getLsbD TorrentFlags.autoManagedBit) := by
  simp only [loadedWidgets, isPaused, bne, TorrentFlags.paused, TorrentFlags.autoManaged,
    TorrentFlags.and_ofBit_beq_ofBit _ (show TorrentFlags.pausedBit < 64 by decide),
    TorrentFlags.and_ofBit_beq_ofBit _ (show TorrentFlags.autoManagedBit < 64 by decide)]

end LoadedWidgets

/-- `wxEVT_CHOICE` on `m_torrents`, with the index the user picked. -/
def onTorrentChoice (dialog : AddTorrentDialog) (index : Nat)
    (inside : index < dialog.params.length) : AddTorrentDialog :=
  load { dialog with selection := index, selection_lt := inside }

/-- The `wxEVT_MENU` handler of the priority menu: `SetFilePriorities(items, prio)` with
the priority of the picked entry, on the selected torrent. -/
def onPriorityMenu (dialog : AddTorrentDialog) (fileIndices : List Nat)
    (item : PriorityMenuItem) : AddTorrentDialog :=
  dialog.modifySelected fun params =>
    { params with
      filePriorities := setFilePriorities params.filePriorities fileIndices item.priority }

/-- `m_filesModel->UpdatePriorities(param.file_priorities)`. -/
def updatePriorities (dialog : AddTorrentDialog) : AddTorrentDialog :=
  { dialog with
    widgets :=
      { dialog.widgets with
        files := dialog.widgets.files.map fun shown => (shown.1, dialog.selected.filePriorities) } }

/-- `ShowFileContextMenu`, given whether no item of the file view is selected and the file
indices `GetFileIndices` finds among the selected items, with the menu entry the user picks,
if any.  The check marks it computes are `priorityMenuChecks`. -/
def showFileContextMenu (dialog : AddTorrentDialog) (itemsEmpty : Bool) (fileIndices : List Nat)
    (chosen : Option PriorityMenuItem) : AddTorrentDialog :=
  if itemsEmpty then dialog
  else
    match chosen with
    | none => dialog.updatePriorities
    | some item => (dialog.onPriorityMenu fileIndices item).updatePriorities

section ContextMenu

variable (dialog : AddTorrentDialog)

@[simp] theorem params_updatePriorities : dialog.updatePriorities.params = dialog.params := rfl

@[simp] theorem selected_updatePriorities :
    dialog.updatePriorities.selected = dialog.selected := rfl

@[simp] theorem widgets_updatePriorities :
    dialog.updatePriorities.widgets =
      { dialog.widgets with
        files :=
          dialog.widgets.files.map fun shown => (shown.1, dialog.selected.filePriorities) } := rfl

end ContextMenu

/-- `params.ti = ti` and the new label of `m_torrents`, in the loop of `MetadataFound`. -/
def attachMetadata (dialog : AddTorrentDialog) (i : Nat) (found : AddTorrentParams) :
    AddTorrentDialog :=
  { dialog with
    params := dialog.params.set i found
    torrents := dialog.torrents.set i (getTorrentDisplayName found)
    selection_lt := by simpa using dialog.selection_lt }

section AttachMetadata

variable (dialog : AddTorrentDialog) (i : Nat) (found : AddTorrentParams)

@[simp] theorem params_attachMetadata :
    (dialog.attachMetadata i found).params = dialog.params.set i found := rfl

@[simp] theorem selection_attachMetadata :
    (dialog.attachMetadata i found).selection = dialog.selection := rfl

@[simp] theorem torrents_attachMetadata :
    (dialog.attachMetadata i found).torrents =
      dialog.torrents.set i (getTorrentDisplayName found) := rfl

@[simp] theorem widgets_attachMetadata :
    (dialog.attachMetadata i found).widgets = dialog.widgets := rfl

theorem selected_attachMetadata :
    (dialog.attachMetadata i found).selected =
      if i = dialog.selection then found else dialog.selected := by
  apply selected_eq_of_getElem?
  split
  · simp [*, dialog.selection_lt]
  · rename_i differs
    rw [params_attachMetadata, selection_attachMetadata, List.getElem?_set_ne differs,
      getElem?_selection]

end AttachMetadata

/-- One pass of the loop in `MetadataFound`. -/
def metadataFoundAt (ti : TorrentInfo) (dialog : AddTorrentDialog) (i : Nat) :
    AddTorrentDialog :=
  if inside : i < dialog.params.length then
    let params := dialog.params.get ⟨i, inside⟩
    if params.infoHashes = ti.infoHashes then
      let updated := dialog.attachMetadata i { params with ti := some ti }
      if i = dialog.selection then load updated else updated
    else dialog
  else dialog

def metadataFound (dialog : AddTorrentDialog) (ti : TorrentInfo) : AddTorrentDialog :=
  (List.range dialog.params.length).foldl (metadataFoundAt ti) dialog

/-- The dialog once its constructor has run: the torrents listed, the first one
selected and loaded.  The controls' values before `Load(0)` are overwritten by it. -/
def create (params : List AddTorrentParams) (nonempty : params ≠ []) : AddTorrentDialog :=
  load
    { params
      selection := 0
      selection_lt := List.length_pos.mpr nonempty
      torrents := params.map getTorrentDisplayName
      widgets :=
        { labels := ⟨[], none, [], []⟩
          savePath := WxString.empty
          sequentialDownload := false
          startTorrent := false
          files := none } }

/-- What the user does to the dialog; each event runs the handler bound to its control. -/
inductive Event
  | torrentChoice (index : Nat)
  | savePathText (text : WxString)
  | savePathBrowse (chosen : Option WxString)
  | sequentialDownloadClick
  | startTorrentClick
  | fileContextMenu (itemsEmpty : Bool) (fileIndices : List Nat)
      (chosen : Option PriorityMenuItem)

/-- The dialog after an event; `none` for a choice of an entry `wxChoice` does not
hold. -/
def step (dialog : AddTorrentDialog) : Event → Option AddTorrentDialog
  | .torrentChoice index =>
      if inside : index < dialog.params.length then some (dialog.onTorrentChoice index inside)
      else none
  | .savePathText text => some (dialog.setSavePathValue text)
  | .savePathBrowse chosen => some (dialog.onSavePathBrowse chosen)
  | .sequentialDownloadClick =>
      some (onSequentialDownload
        { dialog with
          widgets :=
            { dialog.widgets with sequentialDownload := !dialog.widgets.sequentialDownload } })
  | .startTorrentClick =>
      some (onStartTorrent
        { dialog with
          widgets := { dialog.widgets with startTorrent := !dialog.widgets.startTorrent } })
  | .fileContextMenu itemsEmpty fileIndices chosen =>
      some (dialog.showFileContextMenu itemsEmpty fileIndices chosen)

/-- What one event can do: each event runs its handler, and a torrent choice also needs an
entry to choose. -/
theorem step_cases {dialog next : AddTorrentDialog} {event : Event}
    (stepped : dialog.step event = some next) :
    (∃ index inside, event = .torrentChoice index ∧ next = dialog.onTorrentChoice index inside) ∨
      (∃ text, (event = .savePathText text ∨ event = .savePathBrowse (some text)) ∧
        next = dialog.setSavePathValue text) ∨
      (event = .savePathBrowse none ∧ next = dialog) ∨
      (event = .sequentialDownloadClick ∧
        next = onSequentialDownload
          { dialog with
            widgets :=
              { dialog.widgets with sequentialDownload := !dialog.widgets.sequentialDownload } }) ∨
      (event = .startTorrentClick ∧
        next = onStartTorrent
          { dialog with
            widgets := { dialog.widgets with startTorrent := !dialog.widgets.startTorrent } }) ∨
      ∃ itemsEmpty fileIndices chosen, event = .fileContextMenu itemsEmpty fileIndices chosen ∧
        next = dialog.showFileContextMenu itemsEmpty fileIndices chosen := by
  cases event with
  | torrentChoice index =>
      simp only [step] at stepped
      split at stepped
      · exact .inl ⟨index, _, rfl, (Option.some.inj stepped).symm⟩
      · cases stepped
  | savePathText text => exact .inr (.inl ⟨text, .inl rfl, (Option.some.inj stepped).symm⟩)
  | savePathBrowse chosen =>
      cases chosen with
      | none => exact .inr (.inr (.inl ⟨rfl, (Option.some.inj stepped).symm⟩))
      | some text => exact .inr (.inl ⟨text, .inr rfl, (Option.some.inj stepped).symm⟩)
  | sequentialDownloadClick =>
      exact .inr (.inr (.inr (.inl ⟨rfl, (Option.some.inj stepped).symm⟩)))
  | startTorrentClick =>
      exact .inr (.inr (.inr (.inr (.inl ⟨rfl, (Option.some.inj stepped).symm⟩))))
  | fileContextMenu itemsEmpty fileIndices chosen =>
      exact .inr (.inr (.inr (.inr (.inr ⟨_, _, _, rfl, (Option.some.inj stepped).symm⟩))))

/-- The states the dialog can reach: user events and metadata arrivals in any order. -/
inductive Reachable : AddTorrentDialog → Prop
  | create (params : List AddTorrentParams) (nonempty : params ≠ []) :
      Reachable (create params nonempty)
  | step {dialog next : AddTorrentDialog} (event : Event) :
      Reachable dialog → dialog.step event = some next → Reachable next
  | metadataFound {dialog : AddTorrentDialog} (ti : TorrentInfo) :
      Reachable dialog → Reachable (dialog.metadataFound ti)

end AddTorrentDialog

end PicoTorrent
