/-!
# Runs of case mappings

Most letters that change with their case lie in runs: every letter of a run, or every other one, has
its form of the other case at the same distance.
-/

namespace FlowLint.Text

/-- A run of code points `first, first + step, …, last` whose forms lie `shift` away. -/
structure CaseRun where
  first : Nat
  last : Nat
  step : Nat
  shift : Int

namespace CaseRun

/-- The code point lies on the run. -/
def covers (run : CaseRun) (code : Nat) : Bool :=
  run.first ≤ code && code ≤ run.last && (code - run.first) % run.step == 0

/-- The form of a character on the run. -/
def image (run : CaseRun) (c : Char) : Char :=
  Char.ofNat (c.toNat + run.shift).toNat

end CaseRun

end FlowLint.Text
