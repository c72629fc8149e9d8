import FlowLint.Command.Outcome

/-!
# The command line program

Reads the files that a command names, runs the command on them, and prints what it says.
-/

open FlowLint

/-- The fault that an error of the machine stands for. -/
def faultOf : IO.Error → ReadFault
  | .noFileOrDirectory .. => .missing
  | .inappropriateType _ 20 _ => .notDirectory
  | .inappropriateType _ 21 _ => .isDirectory
  | e => .other 5 (toString e)

def readOctets (path : Path) : IO (Except ReadFault (List UInt8)) := do
  try
    return .ok (← IO.FS.readBinFile path.text).toList
  catch e =>
    return .error (faultOf e)

/-- The file system as far as a request looks at it. -/
def snapshot (paths : List Path) : IO FileSystem := do
  let found ← paths.mapM fun path => do return (path, ← readOctets path)
  return fun path => (found.lookup path).getD (.error .missing)

def printed : Output → String
  | .nothing => ""
  | .text text => text
  | .rows rows => String.join (rows.map fun row => "  ".intercalate row ++ "\n")
  | .results results =>
    match Json.Document.ofValue (.list (results.map FileResult.toValue)) with
    | .ok document => String.ofList (document.lines 0) ++ "\n"
    | .error _ => ""

def main (arguments : List String) : IO UInt32 := do
  let paths :=
    match Request.ofArguments arguments with
    | .ok request => request.paths
    | .error _ => []
  let outcome := Command.runArguments (← snapshot paths) arguments
  IO.print (printed outcome.output)
  match outcome.fault with
  | some fault => IO.eprintln fault.message
  | none => pure ()
  return UInt32.ofNat outcome.exitCode
