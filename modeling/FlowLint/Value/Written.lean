import FlowLint.Text.Quoted
import FlowLint.Value.Basic

/-!
# Values in messages

How a value is written into a message. A plain value shows a text as it is; a quoted value shows
texts in quotes, as the parts of lists and mappings are always shown. Truth values and null have
capital initials. A list or mapping that is met again inside itself is shown as three points in its
brackets.

An integer of too many digits has no text, so a value that holds one cannot be written
(`Value.isWritable`). Nor is there a text for collections that stand too deep inside one another
(`Value.showFault?`).
-/

namespace FlowLint

/-- A scalar as messages show it inside lists and mappings, or where a text must stand out. -/
def Scalar.quoted : Scalar → String
  | .null => "None"
  | .bool true => "True"
  | .bool false => "False"
  | .int n => integerText n
  | .float x => x.text
  | .text s => Text.quoted s
  | .octets bytes => Text.quotedOctets bytes
  | .time t => t.term

/-- A scalar as a bare text. -/
def Scalar.plain : Scalar → String
  | .text s => s
  | .time t => t.text
  | s => s.quoted

/-- The members of a set in braces; the braces of an empty set would be those of a mapping. -/
def quotedSet (members : List Scalar) : String :=
  if members.isEmpty then "set()"
  else "\x7b" ++ ", ".intercalate (members.map Scalar.quoted) ++ "\x7d"

namespace Value

/-- What stands for a collection inside itself. -/
def ellipsis : Value → String
  | .map _ => "\x7b...\x7d"
  | _ => "[...]"

mutual

/-- A value with its texts in quotes; `around` holds the knots around it and what stands for them.
-/
def quotedIn (around : List (Nat × String)) : Value → String
  | .scalar s => s.quoted
  | .list items => "[" ++ ", ".intercalate (quotedItems around items) ++ "]"
  | .map members => "\x7b" ++ ", ".intercalate (quotedMembers around members) ++ "\x7d"
  | .pair first second =>
    "(" ++ quotedIn around first ++ ", " ++ quotedIn around second ++ ")"
  | .set members => quotedSet members
  | .knot number body =>
    match around.lookup number with
    | some mark => mark
    | none => quotedIn ((number, body.ellipsis) :: around) body
  | .back number => (around.lookup number).getD "..."

/-- The items of a list, each quoted. -/
def quotedItems (around : List (Nat × String)) : List Value → List String
  | [] => []
  | item :: rest => quotedIn around item :: quotedItems around rest

/-- The members of a mapping, each as its quoted key and value around a colon. -/
def quotedMembers (around : List (Nat × String)) : List (Scalar × Value) → List String
  | [] => []
  | (key, value) :: rest =>
    (key.quoted ++ ": " ++ quotedIn around value) :: quotedMembers around rest

end

def quoted (value : Value) : String :=
  quotedIn [] value

end Value

/-! ## What can be written -/

/-- The scalar has a text. -/
def Scalar.isWritable : Scalar → Bool
  | .int n => FlowLint.isWritable n
  | _ => true

/-- The number has a text. -/
def Number.isWritable : Number → Bool
  | .int n => FlowLint.isWritable n
  | .float _ => true

mutual

/-- Every scalar in the value has a text. -/
def Value.isWritable : Value → Bool
  | .scalar s => s.isWritable
  | .list items => Value.areWritable items
  | .map members => Value.areMembersWritable members
  | .pair first second => first.isWritable && second.isWritable
  | .set members => members.all Scalar.isWritable
  | .knot _ body => body.isWritable
  | .back _ => true

/-- All items of a list can be written. -/
def Value.areWritable : List Value → Bool
  | [] => true
  | item :: rest => item.isWritable && Value.areWritable rest

/-- All members of a mapping can be written. -/
def Value.areMembersWritable : List (Scalar × Value) → Bool
  | [] => true
  | (key, value) :: rest =>
    key.isWritable && value.isWritable && Value.areMembersWritable rest

end

/-! ## What can be shown -/

/-- Why a message cannot be worded: it shows an integer of too many digits, or collections that
stand too deep inside one another. -/
inductive ShowFault where
  | longNumeral
  | tooDeep
deriving DecidableEq, Repr

def ShowFault.message : ShowFault → String
  | .longNumeral => notWritableMessage
  | .tooDeep => "maximum recursion depth exceeded while getting the repr of an object"

def numeralFault? (n : Int) : Option ShowFault :=
  if isWritable n then none else some .longNumeral

def Number.showFault? (n : Number) : Option ShowFault :=
  if n.isWritable then none else some .longNumeral

def Scalar.showFault? (s : Scalar) : Option ShowFault :=
  if s.isWritable then none else some .longNumeral

namespace Value

/-- How many collections may stand inside one another in a value that is shown. A program with a
stack of calls has no such number: it shows what the stack has room for where it happens to be,
which is about as much as this. -/
def maxShownDepth : Nat := 986

mutual

/-- The first fault in a value that is shown, when only so many more collections may stand inside
one another; `around` holds the knots around the value. -/
def showFaultIn (around : List Nat) (room : Nat) : Value → Option ShowFault
  | .scalar s => s.showFault?
  | .list items =>
    match room with
    | 0 => some .tooDeep
    | room + 1 => itemsShowFault around room items
  | .map members =>
    match room with
    | 0 => some .tooDeep
    | room + 1 => membersShowFault around room members
  | .pair first second =>
    match room with
    | 0 => some .tooDeep
    | room + 1 => (showFaultIn around room first).or (showFaultIn around room second)
  | .set members =>
    match room with
    | 0 => some .tooDeep
    | _ + 1 => members.findSome? Scalar.showFault?
  | .knot number body =>
    if around.contains number then none else showFaultIn (number :: around) room body
  | .back _ => none

/-- The first fault in the items of a list. -/
def itemsShowFault (around : List Nat) (room : Nat) : List Value → Option ShowFault
  | [] => none
  | item :: rest => (showFaultIn around room item).or (itemsShowFault around room rest)

/-- The first fault in the members of a mapping, in a key before its value. -/
def membersShowFault (around : List Nat) (room : Nat) : List (Scalar × Value) → Option ShowFault
  | [] => none
  | (key, value) :: rest =>
    (key.showFault?.or (showFaultIn around room value)).or (membersShowFault around room rest)

end

/-- The first thing in a value that keeps it from being shown. -/
def showFault? (value : Value) : Option ShowFault :=
  showFaultIn [] maxShownDepth value

end Value

/-! ## Kinds by name -/

/-- The name of a scalar's kind. -/
def Scalar.kindName : Scalar → String
  | .null => "NoneType"
  | .bool _ => "bool"
  | .int _ => "int"
  | .float _ => "float"
  | .text _ => "str"
  | .octets _ => "bytes"
  | .time (.date _) => "date"
  | .time (.moment ..) => "datetime"

/-- The name of a value's kind. -/
def Value.kindName (value : Value) : String :=
  match value.unfold with
  | .scalar s => s.kindName
  | .list _ => "list"
  | .map _ => "dict"
  | .pair .. => "tuple"
  | .set _ => "set"
  | .knot .. | .back _ => "object"

end FlowLint
