import FlowLint.Number.Numeral
import FlowLint.Text.Base64
import FlowLint.Text.LowerCase
import FlowLint.Value.Basic
import FlowLint.Yaml.Fault
import FlowLint.Yaml.Shape

/-!
# What scalars denote

The value of a scalar whose kind is known (`Tag.scalar`). A kind that a tag asks for may not be the
one that the text has the shape of, so texts of all shapes are looked at here: numerals may have
blanks around them and digits of any script, and what cannot be read is a fault.
-/

namespace FlowLint.Yaml

/-- Why a numeral in a base is none, as a fault of the document. -/
def numeralFault (base : Nat) (cs : List Char) : Numeral.Fault → Fault
  | .unreadable => .badValue (.integer base (String.ofList cs))
  | .tooManyDigits count => .badValue (.tooManyDigits count)

def numeral (base : Nat) (cs : List Char) : Except Fault Int :=
  (Numeral.integer base cs).mapError (numeralFault base cs)

/-- The sign and the rest of a numeral, which has at least one character. -/
def signed (cs : List Char) : Except Fault (Bool × List Char) :=
  if cs.isEmpty then .error (.misfit .emptyNumeral) else .ok (splitSign cs)

/-- The number in base sixty of its digits, the first digit first. -/
def fromSixtieths (digits : List Int) : Int :=
  digits.foldl (fun high digit => high * 60 + digit) 0

/-- The value of an integer: underscores are dropped, and what stands in front tells the base. -/
def integerValue (cs : List Char) : Except Fault Int := do
  let (negative, body) ← signed (cs.filter (· != '_'))
  let magnitude ←
    match body with
    | [] => throw (.misfit .emptyNumeral)
    | ['0'] => pure 0
    | '0' :: 'b' :: digits => numeral 2 digits
    | '0' :: 'x' :: digits => numeral 16 digits
    | '0' :: _ => numeral 8 body
    | _ => return signedBy negative (fromSixtieths (← (Text.splitAll ':' body).mapM (numeral 10)))
  return signedBy negative magnitude
where
  signedBy (negative : Bool) (n : Int) : Int := if negative then -n else n

def fraction (cs : List Char) : Except Fault Binary64 :=
  match Numeral.binary64? cs with
  | some x => .ok x
  | none => .error (.badValue (.float (String.ofList cs)))

/-- The sum of parts in base sixty, the last part first: each part times its power, with every
product and every sum rounded. No power may be too large for a floating-point number. -/
def sixtieths (total : Binary64) (power : Nat) : List Binary64 → Except Fault Binary64
  | [] => .ok total
  | part :: rest =>
    match Binary64.ofInt power with
    | .infinite _ => .error (.misfit .power)
    | factor => sixtieths (total.add (part.mul factor)) (power * 60) rest

/-- The letters of a floating-point number: capitals count as small letters, and underscores do not
count. -/
def floatLetters (cs : List Char) : List Char :=
  Text.lower (cs.filter (· != '_'))

/-- The name of the value that is no number, a sign perhaps in front of it. -/
def isNanName (cs : List Char) : Bool :=
  (splitSign (floatLetters cs)).2 == ".nan".toList

def floatValue (cs : List Char) : Except Fault Binary64 := do
  let (negative, body) ← signed (floatLetters cs)
  let magnitude ←
    if body == ".inf".toList then pure (.infinite false)
    else if isNanName cs then pure .nan
    else
      match Text.splitAll ':' body with
      | [_] => fraction body
      | parts => sixtieths (.zero false) 1 (← parts.mapM fraction).reverse
  return magnitude.negateIf negative

def truthValue (cs : List Char) : Except Fault Bool :=
  let word := String.ofList (Text.lower cs)
  match truthWords.lookup word with
  | some b => .ok b
  | none => .error (.misfit (.truthWord word))

/-- The timestamp of a text; one line end behind it does not count. -/
def timestampValue (cs : List Char) : Except Fault Timestamp :=
  match timestamp? 1 (Text.dropFinalLineEnd cs) with
  | none => .error (.misfit .timestampText)
  | some t =>
    match t.fault? with
    | some fault => .error (.badValue (.calendar fault))
    | none => .ok t

/-- The octets of a text in base 64. -/
def octetsValue (cs : List Char) : Except Fault (List UInt8) :=
  if cs.all (·.toNat < 0x80) then
    match Base64.decode? cs with
    | some octets => .ok octets
    | none => .error (.malformed .badBase64)
  else .error (.malformed .badBase64)

/-- The value of a scalar of the given kind. Merge keys, default keys and unknown kinds have none.
-/
def Tag.scalar (tag : Tag) (s : String) : Except Fault Scalar :=
  let cs := s.toList
  match tag with
  | .null => .ok .null
  | .text => .ok (.text s)
  | .bool => (truthValue cs).map .bool
  | .int => (integerValue cs).map .int
  | .float => (floatValue cs).map .float
  | .timestamp => (timestampValue cs).map .time
  | .binary => (octetsValue cs).map .octets
  | .sequence | .mapping | .orderedMap | .pairs | .set => .error (.malformed .tagMismatch)
  | .merge | .defaultValue | .other _ => .error (.malformed .unknownTag)

end FlowLint.Yaml
