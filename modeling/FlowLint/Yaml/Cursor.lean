import FlowLint.Yaml.Fault

/-!
# Places in a YAML text

A cursor is the rest of a text with the place where it starts. All reading of characters goes
through it, so that lines and columns are counted in one place.

The classes of characters here are those of YAML 1.1: a line may end in a line feed, a next line
character, a line separator or a paragraph separator, and a carriage return counts with them.
-/

namespace FlowLint.Yaml

/-- A character that ends a line. -/
def isBreak (c : Char) : Bool :=
  c == '\n' || c == '\r' || c == '\x85' || c == '\u2028' || c == '\u2029'

/-- A space or a tab. -/
def isGap (c : Char) : Bool :=
  c == ' ' || c == '\t'

/-- A space or a line end. -/
def isSpaceOrBreak (c : Char) : Bool :=
  c == ' ' || isBreak c

/-- A space, a tab or a line end. -/
def isGapOrBreak (c : Char) : Bool :=
  isGap c || isBreak c

/-- A letter, a digit, a hyphen or an underscore of ASCII. -/
def isNameChar (c : Char) : Bool :=
  c.isAlphanum || c == '-' || c == '_'

/-- A character that may stand in a YAML text at all. -/
def isAllowed (c : Char) : Bool :=
  let n := c.toNat
  n == 0x09 || n == 0x0A || n == 0x0D || (0x20 ≤ n && n ≤ 0x7E) || n == 0x85
    || (0xA0 ≤ n && n ≤ 0xFFFD) || 0x10000 ≤ n

/-- The first character, if there is one, is in the class. At the end of the text the answer is
yes. -/
def startsOrEnds (p : Char → Bool) (cs : List Char) : Bool :=
  match cs with
  | [] => true
  | c :: _ => p c

/-- The first character exists and is in the class. -/
def starts (p : Char → Bool) (cs : List Char) : Bool :=
  match cs with
  | [] => false
  | c :: _ => p c

/-- Three hyphens or three dots, with a gap or the end after them: a document marker, when they
stand at the start of a line. -/
def isMarker (mark : Char) (cs : List Char) : Bool :=
  match cs with
  | a :: b :: c :: rest => a == mark && b == mark && c == mark && startsOrEnds isGapOrBreak rest
  | _ => false

def isAnyMarker (cs : List Char) : Bool :=
  isMarker '-' cs || isMarker '.' cs

/-- The rest of a text and where it starts, lines and columns counted from zero. -/
structure Cursor where
  rest : List Char
  index : Nat := 0
  line : Nat := 0
  column : Nat := 0

namespace Cursor

/-- The cursor after one character. A byte order mark has no width, and a carriage return before a
line feed does not end the line by itself. -/
def next (cursor : Cursor) : Cursor :=
  match cursor.rest with
  | [] => cursor
  | c :: rest =>
    if isBreak c && !(c == '\r' && rest.head? == some '\n') then
      ⟨rest, cursor.index + 1, cursor.line + 1, 0⟩
    else if c == '\uFEFF' then ⟨rest, cursor.index + 1, cursor.line, cursor.column⟩
    else ⟨rest, cursor.index + 1, cursor.line, cursor.column + 1⟩

def skip (cursor : Cursor) : Nat → Cursor
  | 0 => cursor
  | n + 1 => cursor.next.skip n

/-- The leading characters of a class, and the cursor after them. -/
def span (p : Char → Bool) (cursor : Cursor) : List Char × Cursor :=
  let taken := cursor.rest.takeWhile p
  (taken, cursor.skip taken.length)

/-- The cursor after the leading characters of a class. -/
def skipWhile (p : Char → Bool) (cursor : Cursor) : Cursor :=
  (cursor.span p).2

/-- The cursor after at most as many leading spaces as reach the given column. -/
def skipSpacesTo (column : Nat) (cursor : Cursor) : Cursor :=
  cursor.skip (min (cursor.rest.takeWhile (· == ' ')).length (column - cursor.column))

/-- A line end at the cursor: its text and the cursor after it. The separators of lines and
paragraphs keep their character, and every other line end is a line feed. -/
def lineEnd? (cursor : Cursor) : Option (Char × Cursor) :=
  match cursor.rest with
  | '\r' :: '\n' :: _ => some ('\n', cursor.skip 2)
  | c :: _ =>
    if c == '\u2028' || c == '\u2029' then some (c, cursor.next)
    else if isBreak c then some ('\n', cursor.next)
    else none
  | [] => none

/-- The cursor after the spaces and the comment that may end a line, if nothing else is left on the
line; the line end, when there is one, is passed too. -/
def restOfLine? (cursor : Cursor) : Option Cursor :=
  let cursor := cursor.skipWhile (· == ' ')
  let cursor := if starts (· == '#') cursor.rest then cursor.skipWhile (!isBreak ·) else cursor
  match cursor.rest with
  | [] => some cursor
  | _ => cursor.lineEnd?.map (·.2)

end Cursor

end FlowLint.Yaml
