import FlowLint.Console.Runs
import FlowLint.Text.Words

/-!
# Lines of console text

A text is shown in a width: its tabs become spaces, and a line that does not fit goes on in the
next one, with a new line before a word.
-/

namespace FlowLint.Console

/-- What becomes of a word that no line has room for: it goes on in further lines, or it is cut off
and ends in an ellipsis. -/
inductive Overflow where
  | fold
  | ellipsis
deriving DecidableEq, Repr

/-! ## Width -/

/-- A character at which a text ends a line when its width is measured. -/
def endsLine (c : Char) : Bool :=
  [0x0A, 0x0B, 0x0C, 0x0D, 0x1C, 0x1D, 0x1E, 0x85, 0x2028, 0x2029].contains c.toNat

/-- The cells of the widest line of a text whose first line goes on at a place, some of its cells
being taken. -/
def widestFrom (place : Text.Place) (used : Nat) : List Char → Nat
  | [] => used
  | c :: rest =>
    if endsLine c then max used (widestFrom {} 0 rest)
    else widestFrom (place.next c) (used + place.width c) rest

/-- The cells of the widest line of a text. A tab takes none here. -/
def naturalWidth (cs : List Char) : Nat :=
  widestFrom {} 0 cs

/-- What is shown for each character of a line, given the parts between its tabs and the cell where
they begin: a tab takes one space, and leads to a multiple of eight cells. -/
def tabbed (cell : Nat) : List (List Char) → List (List Char)
  | [] => []
  | [part] => part.map ([·])
  | part :: more =>
    let reached := cell + Text.textWidth (part ++ [' '])
    let spaces := (8 - reached % 8) % 8
    part.map ([·]) ++ List.replicate (spaces + 1) ' ' :: tabbed (reached + spaces) more

/-- What is shown for each character of a line, which is spaces for a tab. -/
def withoutTabs (line : List Char) : List (List Char) :=
  tabbed 0 (Text.splitAll '\t' line)

/-! ## Breaking -/

/-- The lines of graphemes that are broken wherever a line is full, given the cells of the first
line that are taken. -/
def folded (width used : Nat) : List Text.Grapheme → List (List Char)
  | [] => [[]]
  | grapheme :: more =>
    let next := used + grapheme.width
    if next ≤ width then Text.withFront grapheme.chars (folded width next more)
    else [] :: Text.withFront grapheme.chars (folded width grapheme.width more)

/-- The lines that words fill behind the start of a line, which takes the given cells. A word goes
into the next line when its line has no room for it; the blanks behind it need no room. -/
def filled (width : Nat) (overflow : Overflow) (used : Nat) (start : List Char) :
    List (List Char) → List (List Char)
  | [] => [start]
  | word :: more =>
    let needed := Text.textWidth (Text.trimEnd word)
    if used + needed ≤ width then
      filled width overflow (used + Text.textWidth word) (start ++ word) more
    else if needed ≤ width ∨ overflow = .ellipsis then
      if start = [] then filled width overflow (Text.textWidth word) word more
      else start :: filled width overflow (Text.textWidth word) word more
    else
      let pieces := folded width 0 (Text.graphemes word)
      let complete := if start = [] then pieces.dropLast else start :: pieces.dropLast
      let last := pieces.getLastD []
      complete ++ filled width overflow (Text.textWidth last) last more

/-- A line without as many of its final blanks as it has characters beyond the width. -/
def withoutExcess (width : Nat) (line : List Char) : List Char :=
  let blanks := line.length - (Text.trimEnd line).length
  line.take (line.length - min blanks (line.length - width))

/-- A line cut off at the width, its end being marked where it does not go on elsewhere. -/
def cutOff (width : Nat) (overflow : Overflow) (line : List Char) : List Char :=
  if Text.textWidth line ≤ width then line
  else
    match overflow with
    | .fold => Text.fitted width (Text.graphemes line)
    | .ellipsis => Text.fitted (width - 1) (Text.graphemes line) ++ ['…']

/-- The lines in which one line of a text is shown, given whether its characters start runs. -/
def brokenLine (width : Nat) (overflow : Overflow) (line : List Char) (starts : List Bool) :
    List (List Char) :=
  let pieces := withoutTabs line
  let spaced := pieces.flatten
  let lines :=
    if Text.textWidth spaced ≤ width then [spaced]
    else
      match Text.blankedWords spaced with
      | [] => [spaced]
      | words => filled width overflow 0 [] words
  let spacedStarts := (pieces.zip starts).flatMap fun (piece, starts) =>
    piece.mapIdx fun i _ => starts && i == 0
  (lines.zip (alongLines 0 lines spacedStarts)).map fun (line, starts) =>
    cropped width (cutAtStarts (cutOff width overflow (withoutExcess width line)) starts)

def textLines (width : Nat) (overflow : Overflow) (runs : List (List Char)) : List (List Char) :=
  let lines := Text.splitAll '\n' runs.flatten
  (lines.zip (alongLines 1 lines (runStarts runs))).flatMap fun (line, starts) =>
    brokenLine width overflow line starts

end FlowLint.Console
