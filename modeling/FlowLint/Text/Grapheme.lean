import FlowLint.Text.CellWidth

/-!
# Graphemes

Characters that are shown in the same cells make a grapheme: a character that takes cells, with
those behind it that take none, that a joiner draws in, or that ask for a picture.
-/

namespace FlowLint.Text

/-- The character that draws the next one into the cells of the one before it. -/
def joiner : Char := '\u200d'

/-- The character that asks for the one before it to be shown as a picture. -/
def pictureSelector : Char := '\ufe0f'

/-! ## Places -/

/-- The place behind a text: the character there that a picture selector would apply to, and
whether a joiner draws the next character in. -/
structure Place where
  base : Option Char := none
  joined : Bool := false

namespace Place

/-- A character at the place begins a grapheme. -/
def begins (place : Place) (c : Char) : Bool :=
  !place.joined && charWidth c != 0

/-- A character at the place makes a picture of the base that takes one cell more. -/
def widens (place : Place) (c : Char) : Bool :=
  !place.joined && c == pictureSelector && place.base.any isWidened

/-- The cells that a character takes at the place. -/
def width (place : Place) (c : Char) : Nat :=
  if place.joined then 0 else if place.widens c then 1 else charWidth c

/-- The place behind a character at the place. -/
def next (place : Place) (c : Char) : Place :=
  if place.begins c then ⟨some c, false⟩
  else if place.widens c then ⟨none, false⟩
  else ⟨place.base, !place.joined && c == joiner⟩

end Place

/-- The cells that a text takes at a place, and the given ones. -/
def widthFrom (place : Place) (used : Nat) : List Char → Nat
  | [] => used
  | c :: rest => widthFrom (place.next c) (used + place.width c) rest

def textWidth (cs : List Char) : Nat :=
  widthFrom {} 0 cs

/-! ## Graphemes of a text -/

/-- Characters that are shown in the same cells, and the number of these cells. -/
structure Grapheme where
  chars : List Char := []
  width : Nat := 0

/-- A grapheme with a character of the given width in front. -/
def Grapheme.cons (c : Char) (width : Nat) (grapheme : Grapheme) : Grapheme :=
  ⟨c :: grapheme.chars, width + grapheme.width⟩

/-- What a text at a place adds to the grapheme before it, and its further graphemes. -/
def graphemesFrom (place : Place) : List Char → Grapheme × List Grapheme
  | [] => ({}, [])
  | c :: rest =>
    let (added, more) := graphemesFrom (place.next c) rest
    let grapheme := added.cons c (place.width c)
    if place.begins c then ({}, grapheme :: more) else (grapheme, more)

/-- The graphemes of a text. The first character begins one, whatever it is, and a joiner there
draws nothing in. -/
def graphemes : List Char → List Grapheme
  | [] => []
  | c :: rest =>
    let place : Place := if c = joiner then {} else ({} : Place).next c
    let (added, more) := graphemesFrom place rest
    added.cons c (charWidth c) :: more

/-- Graphemes cut at a width. One that fits by half becomes a space. -/
def fitted : Nat → List Grapheme → List Char
  | 0, _ => []
  | _, [] => []
  | width, grapheme :: more =>
    if grapheme.width ≤ width then grapheme.chars ++ fitted (width - grapheme.width) more
    else [' ']

end FlowLint.Text
