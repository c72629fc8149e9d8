import FlowLint.File.Fault
import FlowLint.Graph.Reader
import FlowLint.Json.Reader
import FlowLint.Report
import FlowLint.Yaml.Reader

/-!
# Workflow files

Loading the graph of a file and checking one or many files. A file that cannot be loaded is a
failure of that file. The faults that no file is blamed for stop the whole run, and so does a node
that cannot be checked.
-/

namespace FlowLint

/-- Why a file holds no workflow. -/
inductive LoadFailure where
  | unreadable (path : Path) (cause : ReadFault)
  | badJson (path : Path) (cause : Json.Fault)
  | badYaml (path : Path) (cause : Yaml.Fault)
  | badGraph (cause : GraphFault)
deriving Repr

/-- The wording of a failure. What is wrong with a YAML text is not told. -/
def LoadFailure.message : LoadFailure → String
  | .unreadable path cause => "Could not read " ++ path.text ++ ": " ++ cause.message path
  | .badJson path cause => "Could not parse " ++ path.text ++ ": " ++ cause.message
  | .badYaml path _ => "Could not parse " ++ path.text
  | .badGraph cause => cause.message

/-- Why loading a file ends without a graph. -/
inductive LoadFault where
  | failure (failure : LoadFailure)
  | file (cause : FileFault)
deriving Repr

/-- What ends the checking of files before its end. -/
inductive Interruption where
  | file (cause : FileFault)
  | check (cause : CheckFault)
deriving DecidableEq, Repr

def Interruption.message : Interruption → String
  | .file cause => cause.message
  | .check cause => cause.message

namespace Workflow

/-- The document of a file's text, in the format that the path names. -/
def document (path : Path) (text : List Char) : Except LoadFault Value :=
  if path.isYaml then
    match Yaml.read text with
    | .ok value => .ok value
    | .error (.misfit cause) => .error (.file (.misfit cause))
    | .error cause => .error (.failure (.badYaml path cause))
  else
    match Json.read text with
    | .ok value => .ok value
    | .error (.tooDeep collection) => .error (.file (.tooDeep collection))
    | .error cause => .error (.failure (.badJson path cause))

def ofText (path : Path) (text : List Char) : Except LoadFault Graph := do
  let value ← document path text
  (Graph.ofValue value).mapError fun cause => .failure (.badGraph cause)

def load (system : FileSystem) (path : Path) : Except LoadFault Graph :=
  match system.readText path with
  | .error (.unreadable cause) => .error (.failure (.unreadable path cause))
  | .error .nullInPath => .error (.file .nullInPath)
  | .error (.undecodable cause) => .error (.file (.undecodable cause))
  | .ok text => ofText path text

end Workflow

/-- The outcome for one file: a report, or why there is none. -/
structure FileResult where
  path : String
  outcome : Except LoadFailure Report

namespace FileResult

/-- The report, if there is one. -/
def report? (result : FileResult) : Option Report :=
  match result.outcome with
  | .ok report => some report
  | .error _ => none

/-- The wording of the failure, if there is one. -/
def failure? (result : FileResult) : Option String :=
  match result.outcome with
  | .ok _ => none
  | .error failure => some failure.message

def ok (result : FileResult) : Bool :=
  match result.outcome with
  | .ok report => report.valid
  | .error _ => false

/-- A result as a document value. -/
def toValue (result : FileResult) : Value :=
  .map [(.text "path", .text result.path),
    (.text "report", (result.report?.map Report.toValue).getD .null),
    (.text "failure", (result.failure?.map Value.text).getD .null)]

end FileResult

namespace Workflow

/-- The result for the file under the text of a path. -/
def checkFile (system : FileSystem) (settings : Settings) (path : String) :
    Except Interruption FileResult :=
  match load system (Path.ofText path) with
  | .error (.failure failure) => .ok ⟨path, .error failure⟩
  | .error (.file cause) => .error (.file cause)
  | .ok graph =>
    match Report.of graph settings with
    | .ok report => .ok ⟨path, .ok report⟩
    | .error cause => .error (.check cause)

/-- The results for files, in their order. -/
def checkFiles (system : FileSystem) (settings : Settings) :
    List String → Except Interruption (List FileResult)
  | [] => .ok []
  | path :: rest => do
    let result ← checkFile system settings path
    return result :: (← checkFiles system settings rest)

end Workflow

end FlowLint
