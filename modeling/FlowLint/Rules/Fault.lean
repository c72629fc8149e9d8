import FlowLint.Finding
import FlowLint.Json.Fault
import FlowLint.Json.Writer
import FlowLint.Url.Parts

/-!
# Why a node cannot be checked

Most nodes can be checked whatever their parameters are. Four faults end the check of a node and
with it the whole run: a network location that cannot be one, headers without a JSON text, a written
schema that is nested too deep, and a finding that shows what has no text.
-/

namespace FlowLint

/-- Why a node cannot be checked. -/
inductive CheckFault where
  | url (fault : Url.Fault)
  | headers (fault : Json.WriteFault)
  | schema (collection : Json.Collection)
  | statement (fault : ShowFault)
deriving DecidableEq, Repr

/-- The name of a key's kind, with the module of those that are kept in one. -/
def keyKindName (key : Scalar) : String :=
  match key with
  | .time _ => "datetime." ++ key.kindName
  | _ => key.kindName

def CheckFault.message : CheckFault → String
  | .url fault => fault.message
  | .headers (.badKey key) =>
    "keys must be str, int, float, bool or None, not " ++ keyKindName key
  | .headers .circular => "Circular reference detected"
  | .headers .longNumeral => notWritableMessage
  | .headers .tooDeep => "maximum recursion depth exceeded while encoding a JSON object"
  | .schema collection => Json.tooDeepMessage collection
  | .statement fault => fault.message

namespace Rules

/-- The findings when all of them can be worded, and otherwise the fault of the first that
cannot. -/
def worded (findings : List Finding) : Except CheckFault (List Finding) :=
  match findings.findSome? (·.fault?) with
  | none => .ok findings
  | some fault => .error (.statement fault)

theorem worded_eq_ok_iff {findings found : List Finding} :
    worded findings = .ok found ↔ (∀ f ∈ findings, f.isWritable = true) ∧ found = findings := by
  have hall : findings.findSome? (·.fault?) = none ↔ ∀ f ∈ findings, f.isWritable = true := by
    simp only [List.findSome?_eq_none_iff, Finding.isWritable, Option.isNone_iff_eq_none]
  rw [← hall, worded]
  cases findings.findSome? (·.fault?) with
  | none => simp [eq_comm]
  | some fault => simp

end Rules

end FlowLint
