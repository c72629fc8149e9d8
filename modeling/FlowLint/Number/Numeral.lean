import FlowLint.Number.Binary64
import FlowLint.Text.Blank
import FlowLint.Text.DecimalDigit

/-!
# Numerals that a text consists of

Reading a text that is one number. Blanks may stand around the number and a sign in front of it, and
its digits may be those of any script. An integer may have a mark of its base in front, and single
underscores between digits.
-/

namespace FlowLint.Numeral

/-- Why a text is no numeral. -/
inductive Fault where
  | unreadable
  | tooManyDigits (count : Nat)
deriving DecidableEq, Repr

/-- The ASCII character that a character counts for in a numeral: digits of any script count for
those of ASCII, and blanks for a space. What has no place in a numeral becomes a question mark. -/
def asciiForm (c : Char) : Char :=
  if c.toNat < 0x80 then c
  else if Text.isBlank c then ' '
  else
    match Text.decimalDigit? c with
    | some n => Nat.digitChar n
    | none => '?'

/-- A space, a tab or one of the ASCII characters that end a line. -/
def isOuterBlank (c : Char) : Bool :=
  c == ' ' || (0x09 ≤ c.toNat && c.toNat ≤ 0x0D)

/-- The text in ASCII form, without the blanks around it. -/
def body (cs : List Char) : List Char :=
  (((cs.map asciiForm).dropWhile isOuterBlank).reverse.dropWhile isOuterBlank).reverse

/-! ## Integers -/

/-- The letters of the mark of a base. -/
def baseLetters (base : Nat) : List Char :=
  match base with
  | 2 => ['b', 'B']
  | 8 => ['o', 'O']
  | 16 => ['x', 'X']
  | _ => []

/-- The digits after the mark of the base, if it is there, and one underscore behind the mark. -/
def withoutMark (base : Nat) (cs : List Char) : List Char :=
  match cs with
  | '0' :: letter :: rest =>
    if (baseLetters base).contains letter then
      match rest with
      | '_' :: digits => digits
      | _ => rest
    else cs
  | _ => cs

/-- The digits at the start of a text, with the underscores among them. -/
def leadingDigits (base : Nat) (cs : List Char) : List Char :=
  cs.takeWhile fun c => (digitOf? base c).isSome || c == '_'

/-- Underscores stand between digits, one at a time. -/
def areGrouped (cs : List Char) : Bool :=
  cs.head? != some '_' && cs.getLast? != some '_'
    && (cs.zip (cs.drop 1)).all fun pair => pair != ('_', '_')

/-- The integer of a text in a base. The length of decimal numerals is limited, whatever follows
them. -/
def integer (base : Nat) (cs : List Char) : Except Fault Int :=
  let (negative, rest) := splitSign (body cs)
  let numeral := withoutMark base rest
  let digits := (leadingDigits base numeral).filter (· != '_')
  if base = 10 ∧ maxDigits < digits.length then .error (.tooManyDigits digits.length)
  else if areGrouped numeral then
    match numeral? base (numeral.filter (· != '_')) with
    | some n => .ok (if negative then -(n : Int) else n)
    | none => .error .unreadable
  else .error .unreadable

/-! ## Decimal fractions -/

/-- The value of digits with perhaps a point among them and an exponent behind them. -/
def decimal? (cs : List Char) : Option Binary64 :=
  let whole := cs.takeWhile isDigit
  let (fraction, rest) : List Char × List Char :=
    match cs.dropWhile isDigit with
    | '.' :: more => more.span isDigit
    | more => ([], more)
  match numeral? 10 (whole ++ fraction) with
  | none => none
  | some n =>
    match rest with
    | [] => some (.ofDecimal false n (-fraction.length))
    | e :: exponent =>
      if e == 'e' || e == 'E' then
        let (negative, exponentDigits) := splitSign exponent
        (numeral? 10 exponentDigits).map fun k =>
          .ofDecimal false n ((if negative then -(k : Int) else k) - fraction.length)
      else none

def infinityNames : List String := ["inf", "infinity"]

/-- The floating-point number of a text: a decimal, or infinity or the value that is no number by
name, in letters of either case. -/
def binary64? (cs : List Char) : Option Binary64 :=
  let (negative, rest) := splitSign (body cs)
  let name := String.ofList (rest.map Char.toLower)
  if infinityNames.contains name then some (.infinite negative)
  else if name = "nan" then some .nan
  else (decimal? rest).map (·.negateIf negative)

end FlowLint.Numeral
