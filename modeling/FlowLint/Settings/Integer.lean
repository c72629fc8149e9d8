import FlowLint.Number.Numeral
import FlowLint.Text.Split
import FlowLint.Text.Utf8
import FlowLint.Value.Basic

/-!
# Lenient integers

The values that a setting takes for an integer: integers, the truth values as zero and one,
floating-point numbers without a fraction, and texts, in UTF-8 too. A text may have blanks around
it, a plus sign or a minus sign, leading zeros, single underscores between digits, and a point with
zeros only. A minus sign may also stand behind leading zeros.
-/

namespace FlowLint

/-- Why a value is not taken for an integer. -/
inductive IntegerFault where
  | wrongKind
  | unreadable
  | tooLong
  | fractional
  | notFinite
deriving DecidableEq, Repr

namespace LenientInteger

open FlowLint.Text

/-- A blank that is no separator of files, groups, records or units. -/
def isOuterBlank (c : Char) : Bool :=
  isBlank c && !(0x1C ≤ c.toNat && c.toNat ≤ 0x1F)

def body (cs : List Char) : List Char :=
  ((cs.dropWhile isOuterBlank).reverse.dropWhile isOuterBlank).reverse

/-- The text after a plus sign, which no minus sign may follow. -/
def withoutPlus? (cs : List Char) : Option (List Char) :=
  match cs with
  | '+' :: '-' :: _ => none
  | '+' :: rest => some rest
  | _ => some cs

/-- What follows the leading zeros, of which `last` is the one before; underscores may stand among
them. The last zero is kept before a point and at the end. -/
def afterZeros? (last : Char) : List Char → Option (List Char)
  | [] => some [last]
  | c :: rest =>
    if c == '0' || c == '_' then afterZeros? c rest
    else if isDigit c || c == '-' then some (c :: rest)
    else if c == '.' then some (last :: c :: rest)
    else none

/-- The text without leading zeros. It starts with a digit or a minus sign. -/
def withoutZeros? (cs : List Char) : Option (List Char) :=
  match cs with
  | '0' :: rest => afterZeros? '0' rest
  | c :: _ => if isDigit c || c == '-' then some cs else none
  | [] => none

/-- The text before a point behind which there are zeros only, at least one. -/
def withoutFraction? (cs : List Char) : Option (List Char) :=
  match splitFirst '.' cs with
  | (whole, some zeros) => if !zeros.isEmpty && zeros.all (· == '0') then some whole else none
  | (_, none) => some cs

/-- The value of digits with single underscores between them. Not too many digits are read. -/
def magnitude (cs : List Char) : Except IntegerFault Nat :=
  let digits := cs.filter (· != '_')
  if !Numeral.areGrouped cs then .error .unreadable
  else
    match numeral? 10 digits with
    | some n => if maxDigits < digits.length then .error .tooLong else .ok n
    | none => .error .unreadable

/-- The text without the parts that say nothing: blanks, a plus sign, leading zeros, and a point
with zeros. -/
def significant? (cs : List Char) : Option (List Char) := do
  withoutFraction? (← withoutZeros? (← withoutPlus? (body cs)))

def ofText (cs : List Char) : Except IntegerFault Int :=
  match significant? cs with
  | none => .error .unreadable
  | some ('-' :: digits) => (magnitude digits).map fun n => -(n : Int)
  | some digits => (magnitude digits).map fun n => (n : Int)

/-- The integer of a floating-point number, which lies inside the range of 64-bit integers. -/
def ofBinary64 (x : Binary64) : Except IntegerFault Int :=
  match x with
  | .finite .. =>
    match x.toInt? with
    | some n => if n.natAbs < Nat.pow 2 63 then .ok n else .error .tooLong
    | none => .error .fractional
  | _ => .error .notFinite

def ofValue : Value → Except IntegerFault Int
  | .int n => .ok n
  | .bool b => .ok (if b then 1 else 0)
  | .float x => ofBinary64 x
  | .text s => ofText s.toList
  | .scalar (.octets bytes) =>
    match Utf8.decode bytes with
    | .ok cs => ofText cs
    | .error _ => .error .unreadable
  | _ => .error .wrongKind

end LenientInteger

end FlowLint
