import FlowLint.Command.Request
import FlowLint.Console.Block
import FlowLint.File.Settings
import FlowLint.File.Workflow
import FlowLint.Plan

/-!
# Running commands

What a command prints and its exit code, as a function of its arguments and the file system. The
exit code is two when the command line or the settings are at fault, one when some file was not
loaded or is not valid or something could not be printed, and zero otherwise.

Paths and types are printed as the markup that they are, and the texts of findings and failures are
escaped.
-/

namespace FlowLint

/-- What is printed: nothing, a text, rows of cells, or results as one document. -/
inductive Output where
  | nothing
  | text (text : String)
  | rows (rows : List (List String))
  | results (results : List FileResult)

/-- Something that a command cannot report in its own output. -/
inductive CommandFault where
  | usage (fault : UsageFault)
  | settings (fault : SettingsFault)
  | interruption (cause : Interruption)
  | markup (fault : Console.MarkupFault)

def CommandFault.message : CommandFault → String
  | .usage fault => fault.message
  | .settings fault => fault.message
  | .interruption cause => cause.message
  | .markup fault => fault.message

/-- How a command ends. -/
structure CommandOutcome where
  exitCode : Nat
  output : Output
  fault : Option CommandFault := none

namespace Command

def styled (style text : String) : String :=
  "[" ++ style ++ "]" ++ text ++ "[/]"

def escaped (text : String) : String :=
  String.ofList (Console.Markup.escape text.toList)

def severityStyle : Severity → String
  | .error => "bold red"
  | .warning => "yellow"
  | .info => "cyan"

def diagnosticHeader : List String := ["Severity", "Code", "Node", "Message"]

def diagnosticCells (d : Diagnostic) : List String :=
  [styled (severityStyle d.severity) d.severity.name, d.code.name, escaped d.nodeName,
    escaped d.message]

def summary (report : Report) : String :=
  (if report.valid then styled "bold green" "valid" else styled "bold red" "invalid")
    ++ ": " ++ numberText report.errors.length
    ++ " error(s), " ++ numberText report.warnings.length ++ " warning(s)"

/-- What is printed for one file: why it was not loaded, that it has nothing to check, or its
report. -/
def resultBlocks (result : FileResult) : List Console.Block :=
  match result.outcome with
  | .error failure =>
    [.panel (styled "bold red" "Could not load" ++ " " ++ styled "cyan" result.path ++ ": "
      ++ escaped failure.message)]
  | .ok report =>
    if report.checked then
      [.table (some ("Validation Report: " ++ result.path)) diagnosticHeader
        (report.diagnostics.map diagnosticCells), .line (summary report)]
    else [.panel (styled "cyan" result.path ++ ": no AI nodes, nothing to check")]

/-- The outcome of a command that prints blocks. It ends with exit code one at a block without
meaning. -/
def printing (exitCode : Nat) (blocks : List Console.Block) : CommandOutcome :=
  match Console.printBlocks blocks with
  | (rows, none) => { exitCode, output := .rows rows }
  | (rows, some fault) => ⟨1, .rows rows, some (.markup fault)⟩

/-- The exit code for results: zero when every file is valid. -/
def resultsCode (results : List FileResult) : Nat :=
  if results.all (·.ok) then 0 else 1

/-- What is reported of checked files: their results as one document or as blocks. -/
def reported (json : Bool) (checked : Except Interruption (List FileResult)) : CommandOutcome :=
  match checked with
  | .error cause => ⟨1, .nothing, some (.interruption cause)⟩
  | .ok results =>
    if json then { exitCode := resultsCode results, output := .results results }
    else printing (resultsCode results) (results.flatMap resultBlocks)

def validateWith (system : FileSystem) (settings : Settings) (files : List Path) (json : Bool) :
    CommandOutcome :=
  reported json (Workflow.checkFiles system settings (files.map (·.text)))

/-- Validates files under the settings of a file. A settings file that is refused ends the command
before any file is looked at. -/
def validate (system : FileSystem) (files : List Path) (json : Bool) (config : Option Path) :
    CommandOutcome :=
  match Settings.load system config with
  | .error (.failure failure) => ⟨2, .nothing, some (.settings (.failure failure))⟩
  | .error fault => ⟨1, .nothing, some (.settings fault)⟩
  | .ok settings => validateWith system settings files json

def explain (system : FileSystem) (file : Path) : CommandOutcome :=
  match Workflow.load system file with
  | .ok graph => { exitCode := 0, output := .text (graph.plan ++ "\n") }
  | .error (.failure failure) => printing 1 [.panel (styled "bold red" (escaped failure.message))]
  | .error (.file cause) => ⟨1, .nothing, some (.interruption (.file cause))⟩

/-- Tells how a type is spelled, named and sorted. -/
def classify (type : String) : CommandOutcome :=
  let canonical := NodeType.normalize type
  let category := NodeType.classify canonical
  let subtype :=
    match category with
    | .tool kind => [["tool subtype", kind.typeName]]
    | _ => []
  let cells :=
    [["normalized", canonical], ["name", NodeType.shortName canonical],
      ["package", (NodeType.package canonical).name], ["category", category.name]] ++ subtype
  printing 0 [.table none [] cells]

/-- Carries out a request. The count of workers changes nothing. -/
def run (system : FileSystem) : Request → CommandOutcome
  | .validate files json config _ => validate system files json config
  | .explain file => explain system file
  | .classify type => classify type

def runArguments (system : FileSystem) (arguments : List String) : CommandOutcome :=
  match Request.ofArguments arguments with
  | .ok request => run system request
  | .error fault => ⟨2, .nothing, some (.usage fault)⟩

end Command

end FlowLint
