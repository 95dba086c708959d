import PicoTorrent.Application

namespace PicoTorrent

namespace Application

/-! The end of `Application::OnInit` once the database is migrated: the plugins it loads
from the application directory, the event it sends them, and how it shows the main
frame. -/

/-- The byte of `.`. -/
def period : UInt8 := '.'.toUInt8

/-- `std::filesystem::path::extension` of a file name: from its rightmost period to the
end, or empty when the name has no period, when that period is its first character, or
when the name is `..`. -/
def extension (filename : StdString) : StdString :=
  match filename.reverse.dropWhile (· != period) with
  | [] => []
  | dot :: reversedStem =>
      if reversedStem = [] ∨ filename = StdString.ofString ".." then []
      else dot :: (filename.reverse.takeWhile (· != period)).reverse

/-- An extension is the end of its file name. -/
theorem extension_suffix (filename : StdString) : extension filename <:+ filename := by
  unfold extension
  split
  · exact List.nil_suffix
  · rename_i dot reversedStem dropped
    split
    · exact List.nil_suffix
    · have whole := List.takeWhile_append_dropWhile (· != period) filename.reverse
      rw [dropped] at whole
      exact ⟨reversedStem.reverse, by simpa using congrArg List.reverse whole⟩

/-- The period that ends a non-empty stem, followed by no other period, starts the
extension. -/
theorem extension_append {stem ext : StdString} (nonempty : stem ≠ [])
    (noPeriod : ∀ byte ∈ ext, byte ≠ period)
    (notDotDot : stem ++ period :: ext ≠ StdString.ofString "..") :
    extension (stem ++ period :: ext) = period :: ext := by
  have kept : ∀ byte ∈ ext.reverse, (byte != period) = true := by simpa using noPeriod
  have reversed : (stem ++ period :: ext).reverse = ext.reverse ++ period :: stem.reverse := by
    simp
  have dropped : (ext.reverse ++ period :: stem.reverse).dropWhile (· != period) =
      period :: stem.reverse := by
    simp [List.dropWhile_append_of_pos kept, List.dropWhile_cons]
  have taken : (ext.reverse ++ period :: stem.reverse).takeWhile (· != period) = ext.reverse := by
    simp [List.takeWhile_append_of_pos kept, List.takeWhile_cons]
  simp only [extension, reversed, dropped, taken, List.reverse_eq_nil_iff, nonempty, notDotDot,
    or_self, if_false, List.reverse_reverse]

def dll : StdString := StdString.ofString ".dll"

def pluginPrefix : StdString := StdString.ofString "Plugin"

/-- The file names the plugin loop hands to `IPlugin::Load`. -/
def IsPluginFile (filename : StdString) : Prop :=
  pluginPrefix <+: filename ∧ dll <:+ filename

instance : DecidablePred IsPluginFile := fun _ => inferInstanceAs (Decidable (_ ∧ _))

/-- The three tests of the loop, an extension compared with `.dll` and a name whose first
six bytes are `Plugin`, pass exactly on the names that begin with `Plugin` and end with
`.dll`, letter case included. -/
theorem pluginChecks_iff (filename : StdString) :
    (extension filename = dll ∧ 6 ≤ filename.length ∧ filename.take 6 = pluginPrefix) ↔
      IsPluginFile filename := by
  constructor
  · rintro ⟨extended, -, taken⟩
    exact ⟨List.prefix_iff_eq_take.mpr taken.symm, extended ▸ extension_suffix filename⟩
  · rintro ⟨starts, ⟨stem, rfl⟩⟩
    have nonempty : stem ≠ [] := by
      rintro rfl
      exact absurd starts (by decide)
    have notDotDot : stem ++ dll ≠ StdString.ofString ".." :=
      fun same => absurd (same ▸ starts) (by decide)
    exact ⟨extension_append nonempty (by decide) notDotDot, starts.length_le,
      (List.prefix_iff_eq_take.mp starts).symm⟩

section Plugins

/- `API::IPlugin::Load` of a file of the application directory, `none` standing for
`nullptr`. -/
variable {Plugin : Type} (load : StdString → Option Plugin)

/-- One turn of the plugin loop of `OnInit`, over the file names of the application
directory in the order `directory_iterator` gives them. -/
def loadPlugin (plugins : List Plugin) (filename : StdString) : List Plugin :=
  if extension filename != dll then plugins
  else if filename.length < 6 then plugins
  else if filename.take 6 != pluginPrefix then plugins
  else match load filename with
    | some plugin => plugins ++ [plugin]
    | none => plugins

theorem loadPlugin_eq (plugins : List Plugin) (filename : StdString) :
    loadPlugin load plugins filename =
      plugins ++ if IsPluginFile filename then (load filename).toList else [] := by
  rw [loadPlugin]
  by_cases plugin : IsPluginFile filename
  · obtain ⟨extended, long, taken⟩ := (pluginChecks_iff filename).mpr plugin
    cases load filename <;> simp [plugin, extended, long, taken]
  · have failed := mt (pluginChecks_iff filename).mp plugin
    simp only [not_and_or] at failed
    rcases failed with failed | failed | failed <;> simp [plugin, failed]

/-- The plugin loop keeps, in directory order, what `IPlugin::Load` returns for the files
whose name begins with `Plugin` and ends with `.dll`. -/
theorem foldl_loadPlugin (entries : List StdString) (plugins : List Plugin) :
    entries.foldl (loadPlugin load) plugins =
      plugins ++
        (entries.filter fun filename => decide (IsPluginFile filename)).filterMap load := by
  induction entries generalizing plugins with
  | nil => simp
  | cons filename entries induction =>
      rw [List.foldl_cons, induction, loadPlugin_eq]
      by_cases plugin : IsPluginFile filename <;> cases loaded : load filename <;>
        simp [List.filter_cons, plugin, loaded]

example :
    [StdString.ofString "Plugin.DLL", StdString.ofString "PluginWeb.dll",
      StdString.ofString "plugin.dll"].foldl (loadPlugin some) [] =
      [StdString.ofString "PluginWeb.dll"] := by
  decide

end Plugins

/-- `pt::Core::Configuration::WindowState`. -/
inductive WindowState where
  | normal
  | minimized
  | hidden
  | maximized
  deriving DecidableEq

/-- The calls `OnInit` makes on the new `MainFrame`. -/
inductive FrameCall where
  /-- `MSWGetTaskBarButton()->Hide()`. -/
  | hideTaskBarButton
  /-- `Show(true)`. -/
  | show
  | maximize
  | iconize
  deriving DecidableEq

/-- The `switch` of `OnInit` on the configured start position; `none` is a `start_position`
that no case names. -/
def showMainFrame (windowState : Option WindowState) (showInNotificationArea : Bool) :
    List FrameCall :=
  match windowState with
  | some .hidden => if showInNotificationArea then [.hideTaskBarButton] else [.show]
  | some .maximized => [.show, .maximize]
  | some .minimized => [.iconize, .show]
  | some .normal => [.show]
  | none => []

/-- The main frame is shown unless it starts hidden behind the notification-area icon, or
the start position is a value the switch does not name. -/
theorem show_mem_showMainFrame_iff (windowState : Option WindowState)
    (showInNotificationArea : Bool) :
    FrameCall.show ∈ showMainFrame windowState showInNotificationArea ↔
      windowState ≠ none ∧
        ¬(windowState = some .hidden ∧ showInNotificationArea = true) := by
  rcases windowState with _ | _ | _ | _ | _ <;> cases showInNotificationArea <;> decide

/-- What the plugins and the user see of the end of `OnInit`, in order. -/
inductive StartupCall (Plugin : Type) where
  /-- `plugin->EmitEvent(libpico_event_mainwnd_created, mainFrame)`. -/
  | emitMainWndCreated (plugin : Plugin)
  | frame (call : FrameCall)
  /-- `mainFrame->HandleParams(m_options.files, m_options.magnets)`. -/
  | handleParams (files magnets : List StdString)

/-- `Application::OnInit` after `Database::Migrate` succeeded: `m_plugins`, and the calls it
makes on the plugins and the main frame. -/
def startMainFrame {Plugin : Type} (load : StdString → Option Plugin) (entries : List StdString)
    (windowState : Option WindowState) (showInNotificationArea : Bool)
    (options : ApplicationOptions) : List Plugin × List (StartupCall Plugin) :=
  let plugins := entries.foldl (loadPlugin load) []
  (plugins, plugins.map .emitMainWndCreated ++
    (showMainFrame windowState showInNotificationArea).map .frame ++
    [.handleParams options.files options.magnets])

/-- The end of `OnInit`, over every listing of the application directory, every answer of
`IPlugin::Load`, every start position and every command line: `m_plugins` holds, in
directory order, what `Load` returns for the files whose name begins with `Plugin` and ends
with `.dll`, each of which is told that the main window exists; and the main frame is shown
unless it starts hidden behind the notification-area icon or the start position names no
state. -/
theorem startMainFrame_outcome {Plugin : Type} (load : StdString → Option Plugin)
    (entries : List StdString) (windowState : Option WindowState)
    (showInNotificationArea : Bool) (options : ApplicationOptions) :
    let started := startMainFrame load entries windowState showInNotificationArea options
    started.1 = (entries.filter fun filename => decide (IsPluginFile filename)).filterMap load ∧
      (∀ plugin ∈ started.1, .emitMainWndCreated plugin ∈ started.2) ∧
      (.frame .show ∈ started.2 ↔
        windowState ≠ none ∧
          ¬(windowState = some .hidden ∧ showInNotificationArea = true)) := by
  refine ⟨by rw [startMainFrame, foldl_loadPlugin, List.nil_append],
    fun _ loaded => by simp only [startMainFrame] at loaded ⊢; simp [loaded], ?_⟩
  rw [← show_mem_showMainFrame_iff]
  simp [startMainFrame]

/-- The two pieces of the end of `OnInit` meet: it reaches `HandleParams` with two lists
exactly when no other instance runs, the migration succeeds, and the main frame then started
makes that call last, after the plugins' events and the calls that show it. -/
theorem onInit_eq_handleParams_iff {Plugin : Type} (load : StdString → Option Plugin)
    (entries : List StdString) (windowState : Option WindowState)
    (showInNotificationArea : Bool) (anotherRunning migrated : Bool)
    (options : ApplicationOptions) (files magnets : List StdString) :
    onInit anotherRunning migrated options = .handleParams files magnets ↔
      anotherRunning = false ∧ migrated = true ∧
        (startMainFrame load entries windowState showInNotificationArea options).2.getLast? =
          some (.handleParams files magnets) := by
  cases anotherRunning <;> cases migrated <;>
    simp [onInit, startMainFrame, List.getLast?_append, eq_comm]

end Application

end PicoTorrent
