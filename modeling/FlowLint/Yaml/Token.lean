import FlowLint.Yaml.ScalarText

/-!
# Tokens of YAML texts

The tokens that the structure of a YAML text is built from. Indentation is made explicit: the start
and the end of a block collection are tokens, and a key that is only known by the colon behind it
has its key token before it.
-/

namespace FlowLint.Yaml

/-- A tag as written: a handle, if it has one, and the rest. -/
structure TagText where
  handle : Option String
  suffix : String
deriving DecidableEq, Repr

/-- What a directive says. -/
inductive Directive where
  | version (major : Nat)
  | tagPrefix (handle text : String)
  | other (name : String)
deriving DecidableEq, Repr

/-- A token. -/
inductive Token where
  | directive (directive : Directive)
  | documentStart
  | documentEnd
  | streamEnd
  | blockSequenceStart
  | blockMappingStart
  | blockEnd
  | flowSequenceStart
  | flowSequenceEnd
  | flowMappingStart
  | flowMappingEnd
  | blockEntry
  | flowEntry
  | key
  | value
  | alias (name : String)
  | anchor (name : String)
  | tag (tag : TagText)
  | scalar (text : String) (plain : Bool)
deriving DecidableEq, Repr

/-! ## Directives -/

/-- A decimal number of at least one digit, and of no more digits than a numeral may have. -/
def directiveNumber (cursor : Cursor) : Except Fault (Nat × Cursor) :=
  let (digits, after) := cursor.span isDigit
  if maxDigits < digits.length then .error (.badValue (.tooManyDigits digits.length))
  else
    match numeral? 10 digits with
    | some n => .ok (n, after)
    | none => .error (.malformed .badDirective)

/-- The cursor where a space, a line end or the end of the text must follow. -/
def expectSpace (problem : Problem) (cursor : Cursor) : Except Fault Cursor :=
  if startsOrEnds isSpaceOrBreak cursor.rest then .ok cursor else .error (.malformed problem)

/-- A version: two numbers around a point. -/
def directiveVersion (cursor : Cursor) : Except Fault (Directive × Cursor) := do
  let (major, cursor) ← directiveNumber (cursor.skipWhile (· == ' '))
  if starts (· == '.') cursor.rest then
    let (_, cursor) ← directiveNumber cursor.next
    return (.version major, ← expectSpace .badDirective cursor)
  else throw (.malformed .badDirective)

/-- A tag handle: one exclamation mark, or a name between two. -/
def tagHandle (problem : Problem) (cursor : Cursor) : Except Fault (String × Cursor) :=
  match cursor.rest with
  | '!' :: rest =>
    if starts (· == ' ') rest then .ok ("!", cursor.next)
    else
      let name := rest.takeWhile isNameChar
      if starts (· == '!') (rest.drop name.length) then
        .ok (String.ofList ('!' :: name ++ ['!']), cursor.skip (name.length + 2))
      else .error (.malformed problem)
  | _ => .error (.malformed problem)

def isTagChar (c : Char) : Bool :=
  c.isAlphanum || "-;/?:@&=+$,_.!~*'()[]".toList.contains c

/-- The octets of a run of percent escapes. -/
def percentOctets (cursor : Cursor) : Nat → Except Fault (List UInt8 × Cursor)
  | 0 => .ok ([], cursor)
  | fuel + 1 =>
    match cursor.rest with
    | '%' :: a :: b :: _ =>
      match numeral? 16 [a, b] with
      | some n => do
        let (more, stop) ← percentOctets (cursor.skip 3) fuel
        return (UInt8.ofNat n :: more, stop)
      | none => .error (.malformed .badTag)
    | '%' :: _ => .error (.malformed .badTag)
    | _ => .ok ([], cursor)

/-- The characters of a tag, percent escapes standing for the octets of characters. -/
def tagChars (done : List Char) (cursor : Cursor) : Nat → Except Fault (List Char × Cursor)
  | 0 => .ok (done, cursor)
  | fuel + 1 =>
    match cursor.rest with
    | [] => .ok (done, cursor)
    | c :: _ =>
      if c == '%' then do
        let (octets, after) ← percentOctets cursor cursor.rest.length
        match String.fromUTF8? ⟨octets.toArray⟩ with
        | some s => tagChars (done ++ s.toList) after fuel
        | none => throw (.malformed .badTag)
      else if isTagChar c then tagChars (done ++ [c]) cursor.next fuel
      else .ok (done, cursor)

def tagText (problem : Problem) (cursor : Cursor) : Except Fault (String × Cursor) := do
  let (chars, after) ← tagChars [] cursor (cursor.rest.length + 1)
  if chars.isEmpty then throw (.malformed problem)
  return (String.ofList chars, after)

def directiveTag (cursor : Cursor) : Except Fault (Directive × Cursor) := do
  let (handle, cursor) ← tagHandle .badDirective (cursor.skipWhile (· == ' '))
  if starts (· == ' ') cursor.rest then
    let (text, cursor) ← tagText .badDirective (cursor.skipWhile (· == ' '))
    return (.tagPrefix handle text, ← expectSpace .badDirective cursor)
  else throw (.malformed .badDirective)

/-- A directive line, from its percent sign on. -/
def directive (cursor : Cursor) : Except Fault (Token × Cursor) := do
  let (name, cursor) := cursor.next.span isNameChar
  if name.isEmpty then throw (.malformed .badDirective)
  let cursor ← expectSpace .badDirective cursor
  let name := String.ofList name
  let (found, cursor) ←
    if name = "YAML" then directiveVersion cursor
    else if name = "TAG" then directiveTag cursor
    else pure (Directive.other name, cursor.skipWhile (!isBreak ·))
  match cursor.restOfLine? with
  | some after => return (.directive found, after)
  | none => throw (.malformed .badDirective)

/-! ## Properties -/

/-- The name of an anchor or an alias, from the mark before it on. -/
def anchorName (cursor : Cursor) : Except Fault (String × Cursor) :=
  let (name, after) := cursor.next.span isNameChar
  let mayFollow (c : Char) : Bool := isGapOrBreak c || "?:,]\x7d%@\x60".toList.contains c
  if name.isEmpty then .error (.malformed .badAnchor)
  else if startsOrEnds mayFollow after.rest then
    .ok (String.ofList name, after)
  else .error (.malformed .badAnchor)

/-- The tag is written with a handle: a second exclamation mark comes before the next space. -/
def hasHandle (rest : List Char) : Bool :=
  (rest.takeWhile (!isSpaceOrBreak ·)).contains '!'

/-- A tag, from its exclamation mark on. -/
def tagToken (cursor : Cursor) : Except Fault (Token × Cursor) := do
  let rest := cursor.next.rest
  let (found, cursor) ←
    if starts (· == '<') rest then do
      let (suffix, after) ← tagText .badTag (cursor.skip 2)
      if starts (· == '>') after.rest then pure (TagText.mk none suffix, after.next)
      else throw (.malformed .badTag)
    else if startsOrEnds isGapOrBreak rest then pure (TagText.mk none "!", cursor.next)
    else do
      let (handle, after) ←
        if hasHandle rest then tagHandle .badTag cursor else pure ("!", cursor.next)
      let (suffix, after) ← tagText .badTag after
      pure (TagText.mk (some handle) suffix, after)
  return (.tag found, ← expectSpace .badTag cursor)

end FlowLint.Yaml
