/-!
# Blank characters

The characters that count as blank space in parameter texts, and the cutting of blanks from the
ends of a text.
-/

namespace FlowLint.Text

/-- Space, the control characters that separate lines, files, groups, records and units, and every
character of a space, line or paragraph separator category. -/
def isBlank (c : Char) : Bool :=
  let n := c.toNat
  n == 0x20 || (0x09 ≤ n && n ≤ 0x0D) || (0x1C ≤ n && n ≤ 0x1F) || n == 0x85 || n == 0xA0
    || n == 0x1680 || (0x2000 ≤ n && n ≤ 0x200A) || n == 0x2028 || n == 0x2029
    || n == 0x202F || n == 0x205F || n == 0x3000

def trimStart (cs : List Char) : List Char :=
  cs.dropWhile isBlank

def trimEnd (cs : List Char) : List Char :=
  (cs.reverse.dropWhile isBlank).reverse

def trim (cs : List Char) : List Char :=
  trimEnd (trimStart cs)

/-- A text of blanks only; the empty text is one. -/
def allBlank (cs : List Char) : Bool :=
  cs.all isBlank

end FlowLint.Text
