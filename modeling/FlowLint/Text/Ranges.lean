/-!
# Ranges of code points

A character class that no short rule describes is a list of closed ranges of code points.
-/

namespace FlowLint.Text

/-- A character lies in a class when some range of the class holds its code point. -/
def inRanges (ranges : List (Nat × Nat)) (c : Char) : Bool :=
  ranges.any fun range => range.1 ≤ c.toNat && c.toNat ≤ range.2

end FlowLint.Text
