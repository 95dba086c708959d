import PicoTorrent.Core.Text

namespace PicoTorrent

namespace Application

/-! The command line: which parameters are magnet links, which are files, and where the
two lists go. -/

/-- `pt::ApplicationOptions`, the fields the application fills from its command line. -/
structure ApplicationOptions where
  files : List StdString
  magnets : List StdString
  deriving DecidableEq

def ApplicationOptions.empty : ApplicationOptions := ⟨[], []⟩

def magnetPrefix : StdString := StdString.ofString "magnet:?xt"

/-- `arg.rfind("magnet:?xt", 0) == 0`. -/
def isMagnetArg (arg : StdString) : Bool :=
  arg.rfind magnetPrefix 0 == some 0

theorem isMagnetArg_iff (arg : StdString) : isMagnetArg arg = true ↔ magnetPrefix <+: arg := by
  rw [isMagnetArg, beq_iff_eq, StdString.rfind_zero_eq_some_zero_iff]

section CmdLine

/- `std::filesystem::absolute`, which depends on the working directory. -/
variable (absolute : StdString → StdString)

/-- One turn of the loop of `Application::OnCmdLineParsed`. -/
def addParam (options : ApplicationOptions) (param : WxString) : ApplicationOptions :=
  let arg := Utils.toStdString param
  if isMagnetArg arg then { options with magnets := options.magnets ++ [arg] }
  else { options with files := options.files ++ [absolute arg] }

/-- `Application::OnCmdLineParsed`, over the parser's parameters in order; it always
returns `true`. -/
def onCmdLineParsed (params : List WxString) (options : ApplicationOptions) :
    Bool × ApplicationOptions :=
  (true, params.foldl (addParam absolute) options)

/-- The loop appends the magnet links to `magnets` and the absolute paths of the other
parameters to `files`, each in the order of the command line. -/
theorem foldl_addParam (params : List WxString) (options : ApplicationOptions) :
    params.foldl (addParam absolute) options =
      { files := options.files ++
          ((params.map Utils.toStdString).filter (fun arg => !isMagnetArg arg)).map absolute
        magnets := options.magnets ++ (params.map Utils.toStdString).filter isMagnetArg } := by
  induction params generalizing options with
  | nil => simp
  | cons param params induction =>
      rw [List.foldl_cons, induction]
      by_cases magnet : isMagnetArg (Utils.toStdString param) <;>
        simp [addParam, magnet, List.filter_cons]

end CmdLine

/-- The JSON object `ActivateOtherInstance` sends to the running instance. -/
def activateOtherInstancePayload (options : ApplicationOptions) :
    List (String × List StdString) :=
  [("files", options.files), ("magnet_links", options.magnets)]

/-- How `Application::OnInit` ends, after `wxApp::OnInit` has parsed the command line. -/
inductive Startup where
  /-- Another instance runs: the options go to it and `OnInit` returns `false`. -/
  | activateOtherInstance (payload : List (String × List StdString))
  /-- `Database::Migrate` failed and `OnInit` returns `false`. -/
  | migrationFailed
  /-- The main frame gets `HandleParams(files, magnets)` and `OnInit` returns `true`. -/
  | handleParams (files magnets : List StdString)
  deriving DecidableEq

/-- `Application::OnInit` from the point the command line has been parsed. -/
def onInit (anotherRunning migrated : Bool) (options : ApplicationOptions) : Startup :=
  if anotherRunning then .activateOtherInstance (activateOtherInstancePayload options)
  else if migrated then .handleParams options.files options.magnets
  else .migrationFailed

/-- The command line of a fresh application, from `OnCmdLineParsed` to the end of `OnInit`:
every parameter lands in exactly one list, in command-line order, the magnet links being
those that start with `magnet:?xt`; both lists reach `HandleParams`, or the running
instance. -/
theorem onCmdLineParsed_empty (absolute : StdString → StdString) (params : List WxString) :
    let parsed := onCmdLineParsed absolute params .empty
    let args := params.map Utils.toStdString
    parsed.1 = true ∧
      parsed.2.magnets = args.filter (fun arg => magnetPrefix <+: arg) ∧
      parsed.2.files = (args.filter fun arg => ¬magnetPrefix <+: arg).map absolute ∧
      parsed.2.magnets.length + parsed.2.files.length = params.length ∧
      onInit false true parsed.2 = .handleParams parsed.2.files parsed.2.magnets ∧
      ∀ migrated, onInit true migrated parsed.2 =
        .activateOtherInstance [("files", parsed.2.files), ("magnet_links", parsed.2.magnets)] := by
  have magnets : isMagnetArg = fun arg => decide (magnetPrefix <+: arg) :=
    funext fun arg => Bool.eq_iff_iff.mpr ((isMagnetArg_iff arg).trans decide_eq_true_iff.symm)
  simp only [onCmdLineParsed, foldl_addParam, ApplicationOptions.empty, List.nil_append, magnets,
    decide_not, true_and]
  refine ⟨?_, rfl, fun _ => rfl⟩
  rw [List.length_map, ← List.length_eq_length_filter_add, List.length_map]

/-- A magnet URI: `magnet:?` followed by a query one of whose parameters is named `xt`. -/
def isMagnetUri (arg : StdString) : Bool :=
  (StdString.ofString "magnet:?").isPrefixOf arg &&
    ((arg.drop 8).splitOn '&'.toUInt8).any fun parameter =>
      parameter.takeWhile (· != '='.toUInt8) == StdString.ofString "xt"

/-- A magnet URI whose first parameter is the display name goes to the files, and a
parameter named `xtx` to the magnet links. -/
theorem onCmdLineParsed_magnet_xt_not_first :
    let late := StdString.ofString "magnet:?dn=a&xt=urn:btih:0"
    let xtx := StdString.ofString "magnet:?xtx"
    let parsed := onCmdLineParsed id [WxString.fromUTF8 late, WxString.fromUTF8 xtx] .empty
    isMagnetUri late = true ∧ isMagnetUri xtx = false ∧
      parsed.2 = { files := [late], magnets := [xtx] } := by
  decide

end Application

end PicoTorrent
