/-!
# Digit texts

Numerals in a base from two to sixteen, over lists of characters: reading the value of a digit,
reading a numeral, and writing a number in decimal. Between decimal and binary no integer of more
than `maxDigits` digits is converted, in either direction.
-/

namespace FlowLint

/-- The value of a digit, letters of either case standing for ten to fifteen. -/
def digitValue? (c : Char) : Option Nat :=
  if '0' ≤ c ∧ c ≤ '9' then some (c.toNat - '0'.toNat)
  else if 'a' ≤ c ∧ c ≤ 'f' then some (c.toNat - 'a'.toNat + 10)
  else if 'A' ≤ c ∧ c ≤ 'F' then some (c.toNat - 'A'.toNat + 10)
  else none

def digitOf? (base : Nat) (c : Char) : Option Nat :=
  (digitValue? c).filter (· < base)

/-- The value of a numeral that continues one of value `high`; `none` when a character is no digit
of the base. -/
def numeralFrom? (base high : Nat) : List Char → Option Nat
  | [] => some high
  | c :: rest =>
    match digitOf? base c with
    | some d => numeralFrom? base (high * base + d) rest
    | none => none

/-- The value of a numeral of at least one digit. -/
def numeral? (base : Nat) : List Char → Option Nat
  | [] => none
  | cs => numeralFrom? base 0 cs

/-- The sign in front of a numeral, and the rest. -/
def splitSign (cs : List Char) : Bool × List Char :=
  match cs with
  | '-' :: rest => (true, rest)
  | '+' :: rest => (false, rest)
  | _ => (false, cs)

/-- A decimal digit. -/
def isDigit (c : Char) : Bool :=
  '0' ≤ c && c ≤ '9'

def decimalDigits (n : Nat) : List Char :=
  Nat.toDigits 10 n

def numberText (n : Nat) : String :=
  String.ofList (decimalDigits n)

def integerText : Int → String
  | .ofNat n => numberText n
  | .negSucc n => "-" ++ numberText (n + 1)

/-- A number of at least the given count of digits, zeros standing in front. -/
def paddedText (width n : Nat) : String :=
  let digits := decimalDigits n
  String.ofList (List.replicate (width - digits.length) '0' ++ digits)

/-! ## The longest numeral -/

/-- The most decimal digits of an integer that is read or written. -/
def maxDigits : Nat := 4300

/-- The integer has a decimal text. -/
def isWritable (n : Int) : Bool :=
  n.natAbs < Nat.pow 10 maxDigits

def tooManyDigitsMessage (count : Nat) : String :=
  "Exceeds the limit (" ++ numberText maxDigits
    ++ " digits) for integer string conversion: value has " ++ numberText count
    ++ " digits; use sys.set_int_max_str_digits() to increase the limit"

/-- The wording for an integer without a decimal text. -/
def notWritableMessage : String :=
  "Exceeds the limit (" ++ numberText maxDigits
    ++ " digits) for integer string conversion; use sys.set_int_max_str_digits()"
    ++ " to increase the limit"

end FlowLint
