import FlowLint.Number.Digits
import FlowLint.Yaml.Cursor

/-!
# The texts of YAML scalars

Reading the text of a plain scalar, of a scalar in quotes, and of a block scalar. Line folding is
done here: a single line end between two lines becomes a space, and of several the first is dropped.
-/

namespace FlowLint.Yaml

/-- What stands for the line ends between two lines of text: the first line end, which folds to a
space, and those after it. -/
def foldBreaks (first : Char) (others : List Char) : List Char :=
  if first != '\n' then first :: others
  else if others.isEmpty then [' ']
  else others

/-! ## Plain scalars -/

/-- A colon ends a plain scalar when a gap or the end follows, or in a flow collection an
indicator. -/
def endsAtColon (flow : Bool) (rest : List Char) : Bool :=
  let ends (c : Char) : Bool :=
    isGapOrBreak c || (flow && [',', '[', ']', '\x7b', '\x7d'].contains c)
  startsOrEnds ends rest

/-- How many characters of a plain scalar stand at the start of a text, up to a gap. -/
def plainLength (flow : Bool) : List Char → Nat
  | [] => 0
  | c :: rest =>
    if isGapOrBreak c then 0
    else if c == ':' && endsAtColon flow rest then 0
    else if flow && [',', '?', '[', ']', '\x7b', '\x7d'].contains c then 0
    else plainLength flow rest + 1

/-- A gap inside a plain scalar: what it stands for, the cursor after it, and whether it holds a
line end. A gap before a document marker stands for nothing. -/
structure PlainGap where
  text : List Char
  cursor : Cursor
  newLine : Bool

/-- Passes spaces and line ends; the result is the line ends, or nothing when a document marker
starts one of the lines. -/
def plainBreaks (cursor : Cursor) : Nat → Option (List Char) × Cursor
  | 0 => (some [], cursor)
  | fuel + 1 =>
    let cursor := cursor.skipWhile (· == ' ')
    match cursor.lineEnd? with
    | none => (some [], cursor)
    | some (c, after) =>
      if isAnyMarker after.rest then (none, after)
      else
        let (more, stop) := plainBreaks after fuel
        (more.map (c :: ·), stop)

/-- The gap at the cursor. Without a line end it is its spaces; otherwise its line ends are folded.
-/
def plainGap (cursor : Cursor) : PlainGap :=
  let (spaces, cursor) := cursor.span (· == ' ')
  match cursor.lineEnd? with
  | none => ⟨spaces, cursor, false⟩
  | some (first, after) =>
    if isAnyMarker after.rest then ⟨[], after, true⟩
    else
      match plainBreaks after after.rest.length with
      | (none, stop) => ⟨[], stop, true⟩
      | (some others, stop) => ⟨foldBreaks first others, stop, true⟩

/-- A plain scalar: its text, the cursor after it and the gap behind it, and whether that gap has a
line end, so that a key may start there. -/
structure PlainText where
  text : List Char
  cursor : Cursor
  newLine : Bool

/-- Reads the parts of a plain scalar and the gaps between them. In block context a line that is
indented less than the scalar ends it. -/
def plainParts (flow : Bool) (indent : Int) (read gap : List Char) (cursor : Cursor)
    (newLine : Bool) : Nat → PlainText
  | 0 => ⟨read, cursor, newLine⟩
  | fuel + 1 =>
    let size := plainLength flow cursor.rest
    if size = 0 ∨ starts (· == '#') cursor.rest = true then ⟨read, cursor, newLine⟩
    else
      let read := read ++ gap ++ cursor.rest.take size
      let next := plainGap (cursor.skip size)
      if next.text.isEmpty || starts (· == '#') next.cursor.rest
          || (!flow && next.cursor.column < indent) then
        ⟨read, next.cursor, next.newLine⟩
      else plainParts flow indent read next.text next.cursor next.newLine fuel

/-- A plain scalar inside a flow collection, or in a block whose lines start at the given column. -/
def plainScalar (flow : Bool) (indent : Int) (cursor : Cursor) : PlainText :=
  plainParts flow indent [] [] cursor false cursor.rest.length

/-! ## Scalars in quotes -/

/-- The character that a letter after a backslash stands for. -/
def shortEscape? (c : Char) : Option Char :=
  [('0', '\x00'), ('a', '\x07'), ('b', '\x08'), ('t', '\t'), ('\t', '\t'), ('n', '\n'),
    ('v', '\x0B'), ('f', '\x0C'), ('r', '\r'), ('e', '\x1B'), (' ', ' '), ('"', '"'),
    ('\\', '\\'), ('/', '/'), ('N', '\x85'), ('_', '\xA0'), ('L', '\u2028'),
    ('P', '\u2029')].lookup c

/-- The count of hexadecimal digits after an escape letter. -/
def escapeWidth? (c : Char) : Option Nat :=
  [('x', 2), ('u', 4), ('U', 8)].lookup c

/-- The greatest signed integer of 32 bits, beyond which nothing is looked up as a code point. -/
def maxCodeNumber : Nat := 0x7FFFFFFF

/-- The character of a code point. A surrogate is no character, and the replacement character stands
for it, as it does for a half without its partner in JSON texts. -/
def codePoint (n : Nat) : Except Fault Char :=
  if maxCodeNumber < n then .error (.misfit .codePoint)
  else if 0x10FFFF < n then .error (.badValue .codePoint)
  else if 0xD800 ≤ n ∧ n ≤ 0xDFFF then .ok '\uFFFD'
  else .ok (Char.ofNat n)

/-- The line ends at the cursor, with the gaps around them. A document marker may not start a line.
-/
def quotedBreaks (cursor : Cursor) : Nat → Except Fault (List Char × Cursor)
  | 0 => .ok ([], cursor)
  | fuel + 1 =>
    if isAnyMarker cursor.rest then .error (.malformed .markerInQuotes)
    else
      let cursor := cursor.skipWhile isGap
      match cursor.lineEnd? with
      | none => .ok ([], cursor)
      | some (c, after) => do
        let (more, stop) ← quotedBreaks after fuel
        return (c :: more, stop)

def escape (cursor : Cursor) : Except Fault (List Char × Cursor) :=
  match cursor.rest with
  | [] => .error (.malformed .badEscape)
  | c :: _ =>
    match shortEscape? c with
    | some e => .ok ([e], cursor.next)
    | none =>
      match escapeWidth? c with
      | some width =>
        let digits := cursor.next.rest.take width
        if digits.length < width then .error (.malformed .badEscape)
        else
          match numeral? 16 digits with
          | none => .error (.malformed .badEscape)
          | some n => (codePoint n).map fun e => ([e], cursor.next.skip width)
      | none =>
        match cursor.lineEnd? with
        | some (_, after) => quotedBreaks after after.rest.length
        | none => .error (.malformed .badEscape)

/-- A gap in quotes: its spaces and tabs, or what its line ends fold to. -/
def quotedGap (cursor : Cursor) : Except Fault (List Char × Cursor) :=
  let (spaces, cursor) := cursor.span isGap
  match cursor.rest with
  | [] => .error (.malformed .unclosedQuote)
  | _ =>
    match cursor.lineEnd? with
    | none => .ok (spaces, cursor)
    | some (first, after) => do
      let (others, stop) ← quotedBreaks after (after.rest.length + 1)
      return (foldBreaks first others, stop)

/-- Reads up to the closing mark; `done` is the text so far, its last character first. In
apostrophes the mark is written twice to stand for itself, and in quotation marks a backslash starts
an escape. -/
def quotedParts (double : Bool) (done : List Char) (cursor : Cursor) :
    Nat → Except Fault (List Char × Cursor)
  | 0 => .error (.malformed .unclosedQuote)
  | fuel + 1 =>
    match cursor.rest with
    | [] => .error (.malformed .unclosedQuote)
    | c :: rest =>
      if !double && c == '\'' then
        if rest.head? == some '\'' then quotedParts double ('\'' :: done) (cursor.skip 2) fuel
        else .ok (done.reverse, cursor.next)
      else if double && c == '"' then .ok (done.reverse, cursor.next)
      else if double && c == '\\' then do
        let (part, after) ← escape cursor.next
        quotedParts double (part.reverse ++ done) after fuel
      else if isGapOrBreak c then do
        let (part, after) ← quotedGap cursor
        quotedParts double (part.reverse ++ done) after fuel
      else quotedParts double (c :: done) cursor.next fuel

/-- A scalar in quotes, from its opening mark on. -/
def quotedScalar (double : Bool) (cursor : Cursor) : Except Fault (List Char × Cursor) :=
  quotedParts double [] cursor.next (cursor.rest.length + 1)

/-! ## Block scalars -/

/-- What becomes of the line ends after the last line of a block scalar. -/
inductive Chomping where
  | strip
  | clip
  | keep
deriving DecidableEq, Repr

/-- The digit of an indentation indicator; zero is none. -/
def indicatorDigit? (c : Char) : Option (Except Fault Nat) :=
  (digitOf? 10 c).map fun n => if n = 0 then .error (.malformed .badBlockHeader) else .ok n

/-- The sign of a chomping indicator. -/
def chomping? (c : Char) : Option Chomping :=
  if c == '+' then some .keep else if c == '-' then some .strip else none

/-- The indicators after the mark of a block scalar, in either order. -/
def blockHeader (cursor : Cursor) : Except Fault (Chomping × Option Nat × Cursor) := do
  let (chomp, width, cursor) ←
    match cursor.rest.head?.bind chomping? with
    | some chomp =>
      match cursor.next.rest.head?.bind indicatorDigit? with
      | some digit => do
        let width ← digit
        pure (chomp, some width, cursor.next.next)
      | none => pure (chomp, none, cursor.next)
    | none =>
      match cursor.rest.head?.bind indicatorDigit? with
      | some digit => do
        let width ← digit
        match cursor.next.rest.head?.bind chomping? with
        | some chomp => pure (chomp, some width, cursor.next.next)
        | none => pure (Chomping.clip, some width, cursor.next)
      | none => pure (Chomping.clip, none, cursor)
  if startsOrEnds isSpaceOrBreak cursor.rest then
    match cursor.restOfLine? with
    | some after => return (chomp, width, after)
    | none => throw (.malformed .badBlockHeader)
  else throw (.malformed .badBlockHeader)

/-- Passes leading empty lines: their line ends, the deepest indentation met, and the cursor at the
first text. -/
def leadingBreaks (deepest : Nat) (cursor : Cursor) : Nat → List Char × Nat × Cursor
  | 0 => ([], deepest, cursor)
  | fuel + 1 =>
    let cursor := cursor.skipWhile (· == ' ')
    let deepest := max deepest cursor.column
    match cursor.lineEnd? with
    | none => ([], deepest, cursor)
    | some (c, after) =>
      let (more, deepest, stop) := leadingBreaks deepest after fuel
      (c :: more, deepest, stop)

/-- Passes empty lines inside a block scalar, up to its indentation on the next line. -/
def blockBreaks (indent : Nat) (cursor : Cursor) : Nat → List Char × Cursor
  | 0 => ([], cursor)
  | fuel + 1 =>
    let cursor := cursor.skipSpacesTo indent
    match cursor.lineEnd? with
    | none => ([], cursor)
    | some (c, after) =>
      let (more, stop) := blockBreaks indent after fuel
      (c :: more, stop)

/-- What stands between two lines of a folded scalar: their line end is kept next to a line that
starts with a gap. -/
def foldLines (lineEnd : List Char) (breaks : List Char) (plain nextPlain : Bool) : List Char :=
  if lineEnd == ['\n'] && plain && nextPlain then
    if breaks.isEmpty then [' '] else []
  else lineEnd

/-- Reads the lines of a block scalar. `breaks` holds the line ends of the empty lines before the
current one. -/
def blockLines (folded : Bool) (chomp : Chomping) (indent : Nat) (read breaks : List Char)
    (cursor : Cursor) : Nat → List Char × Cursor
  | 0 => (read, cursor)
  | fuel + 1 =>
    let plain := !starts isGap cursor.rest
    let (line, cursor) := cursor.span (!isBreak ·)
    let read := read ++ breaks ++ line
    let (lineEnd, cursor) : List Char × Cursor :=
      match cursor.lineEnd? with
      | some (c, after) => ([c], after)
      | none => ([], cursor)
    let (breaks, cursor) := blockBreaks indent cursor (cursor.rest.length + 1)
    if cursor.column == indent && !cursor.rest.isEmpty then
      let joint :=
        if folded then foldLines lineEnd breaks plain (!starts isGap cursor.rest) else lineEnd
      blockLines folded chomp indent (read ++ joint) breaks cursor fuel
    else
      match chomp with
      | .strip => (read, cursor)
      | .clip => (read ++ lineEnd, cursor)
      | .keep => (read ++ lineEnd ++ breaks, cursor)

/-- A block scalar, from its mark on, inside a block that is indented by `outer`. Without an
indicator its indentation is that of the first line with text, but deeper than the block around it.
-/
def blockScalar (folded : Bool) (outer : Int) (cursor : Cursor) :
    Except Fault (List Char × Cursor) := do
  let (chomp, width, cursor) ← blockHeader cursor.next
  let least := max (outer + 1) 1
  let fuel := cursor.rest.length + 1
  let (indent, breaks, cursor) : Nat × List Char × Cursor :=
    match width with
    | none =>
      let (breaks, deepest, stop) := leadingBreaks 0 cursor fuel
      (max least.toNat deepest, breaks, stop)
    | some width =>
      let indent := least.toNat + width - 1
      let (breaks, stop) := blockBreaks indent cursor fuel
      (indent, breaks, stop)
  if cursor.column == indent && !cursor.rest.isEmpty then
    return blockLines folded chomp indent [] breaks cursor fuel
  else
    return (if chomp = .keep then breaks else [], cursor)

end FlowLint.Yaml
