import FlowLint.Value.Written

/-!
# Writing JSON

A writer of JSON texts in ASCII: every other character is written as one or two escaped code units.
Members keep their order, and numbers have their shortest texts. What JSON has no form for is
written as it is shown in messages, in a string; a pair is written as an array.

Not every value has a JSON text (`Document.ofValue`): a key must be a scalar that has one, a list or
mapping that contains itself has no end, an integer can be too long, and collections can stand too
deep inside one another.
-/

namespace FlowLint.Json

/-- The escape of one code unit. -/
def unitEscape (n : Nat) : List Char :=
  '\\' :: 'u' :: Text.hexText 4 n

/-- The escape of a character, in two code units beyond the first plane. -/
def charEscape (c : Char) : List Char :=
  let n := c.toNat
  if n < 0x10000 then unitEscape n
  else
    unitEscape (0xD800 + (n - 0x10000) / 0x400) ++ unitEscape (0xDC00 + (n - 0x10000) % 0x400)

def stringChar (c : Char) : List Char :=
  match c with
  | '"' => ['\\', '"']
  | '\\' => ['\\', '\\']
  | '\n' => ['\\', 'n']
  | '\r' => ['\\', 'r']
  | '\t' => ['\\', 't']
  | '\x08' => ['\\', 'b']
  | '\x0C' => ['\\', 'f']
  | _ => if 0x20 ≤ c.toNat ∧ c.toNat < 0x7F then [c] else charEscape c

def stringText (s : String) : List Char :=
  '"' :: s.toList.flatMap stringChar ++ ['"']

/-- A floating-point number; the values that are no numbers are written by name. -/
def floatText : Binary64 → String
  | .infinite negative => if negative then "-Infinity" else "Infinity"
  | .nan => "NaN"
  | x => x.text

def scalarText : Scalar → List Char
  | .null => "null".toList
  | .bool b => (if b then "true" else "false").toList
  | .int n => (integerText n).toList
  | .float x => (floatText x).toList
  | .text s => stringText s
  | .octets bytes => stringText (Text.quotedOctets bytes)
  | .time t => stringText t.text

/-- Why a value has no JSON text. -/
inductive WriteFault where
  | badKey (key : Scalar)
  | circular
  | longNumeral
  | tooDeep
deriving DecidableEq, Repr

def keyName : Scalar → Except WriteFault String
  | .text s => .ok s
  | .octets bytes => .error (.badKey (.octets bytes))
  | .time t => .error (.badKey (.time t))
  | key =>
    if key.isWritable then .ok (String.ofList (scalarText key)) else .error .longNumeral

/-- A JSON document: the values that have a JSON text, with names for keys. -/
inductive Document where
  | scalar (value : Scalar)
  | array (items : List Document)
  | object (members : List (String × Document))

/-- How many collections may stand inside one another in a value that is written. As with
`maxDepth`, one number stands for the room that is left on a stack of calls. The value is part of a
document that was read five calls earlier on the stack, so that there is less room. -/
def maxWrittenDepth : Nat := 983

mutual

/-- The document of a value, or the first fault in it, when only so many more collections may stand
inside one another; `around` holds the knots around the value. -/
def Document.ofValueIn (around : List Nat) (room : Nat) : Value → Except WriteFault Document
  | .scalar s => if s.isWritable then .ok (.scalar s) else .error .longNumeral
  | .list items =>
    match room with
    | 0 => .error .tooDeep
    | room + 1 => return .array (← Document.ofItems around room items)
  | .map members =>
    match room with
    | 0 => .error .tooDeep
    | room + 1 => return .object (← Document.ofMembers around room members)
  | .pair first second =>
    match room with
    | 0 => .error .tooDeep
    | room + 1 => do
      let one ← Document.ofValueIn around room first
      return .array [one, ← Document.ofValueIn around room second]
  | .set members =>
    if members.all Scalar.isWritable then .ok (.scalar (.text (quotedSet members)))
    else .error .longNumeral
  | .knot number body =>
    if room = 0 then .error .tooDeep
    else if around.contains number then .error .circular
    else Document.ofValueIn (number :: around) room body
  | .back _ => if room = 0 then .error .tooDeep else .error .circular

def Document.ofItems (around : List Nat) (room : Nat) :
    List Value → Except WriteFault (List Document)
  | [] => .ok []
  | item :: rest => do
    let first ← Document.ofValueIn around room item
    return first :: (← Document.ofItems around room rest)

/-- The named documents of the members of a mapping. -/
def Document.ofMembers (around : List Nat) (room : Nat) :
    List (Scalar × Value) → Except WriteFault (List (String × Document))
  | [] => .ok []
  | (key, value) :: rest => do
    let name ← keyName key
    let first ← Document.ofValueIn around room value
    return (name, first) :: (← Document.ofMembers around room rest)

end

/-- The document of a value, or the first fault in it. -/
def Document.ofValue (value : Value) : Except WriteFault Document :=
  Document.ofValueIn [] maxWrittenDepth value

mutual

/-- The text of a document on one line. -/
def Document.text : Document → List Char
  | .scalar s => scalarText s
  | .array items => '[' :: itemsText items ++ [']']
  | .object members => '\x7b' :: membersText members ++ ['\x7d']

/-- The items of an array, a comma and a space between them. -/
def itemsText : List Document → List Char
  | [] => []
  | [item] => item.text
  | item :: rest => item.text ++ [',', ' '] ++ itemsText rest

/-- The members of an object, a comma and a space between them. -/
def membersText : List (String × Document) → List Char
  | [] => []
  | [(name, member)] => stringText name ++ [':', ' '] ++ member.text
  | (name, member) :: rest =>
    stringText name ++ [':', ' '] ++ member.text ++ [',', ' '] ++ membersText rest

end

/-- The text of a value on one line, or the first fault in it. -/
def write (value : Value) : Except WriteFault (List Char) :=
  (Document.ofValue value).map (·.text)

/-- A line end and the given depth of indentation, two spaces a level. -/
def newLine (depth : Nat) : List Char :=
  '\n' :: List.replicate (2 * depth) ' '

mutual

/-- The text of a document with every item and member on a line of its own. -/
def Document.lines (depth : Nat) : Document → List Char
  | .scalar s => scalarText s
  | .array [] => ['[', ']']
  | .array items => '[' :: itemLines (depth + 1) items ++ newLine depth ++ [']']
  | .object [] => ['\x7b', '\x7d']
  | .object members => '\x7b' :: memberLines (depth + 1) members ++ newLine depth ++ ['\x7d']

/-- The items of an array, each on its line. -/
def itemLines (depth : Nat) : List Document → List Char
  | [] => []
  | [item] => newLine depth ++ item.lines depth
  | item :: rest => newLine depth ++ item.lines depth ++ [','] ++ itemLines depth rest

/-- The members of an object, each on its line. -/
def memberLines (depth : Nat) : List (String × Document) → List Char
  | [] => []
  | [(name, member)] => newLine depth ++ stringText name ++ [':', ' '] ++ member.lines depth
  | (name, member) :: rest =>
    newLine depth ++ stringText name ++ [':', ' '] ++ member.lines depth ++ [',']
      ++ memberLines depth rest

end

end FlowLint.Json
