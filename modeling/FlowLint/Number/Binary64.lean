import FlowLint.Number.Digits

/-!
# Binary floating-point numbers of 64 bits

A finite number is an exact dyadic `± mantissa · 2 ^ exponent`, so rounding, the order against
integers and the test for a whole number are integer arithmetic and need no machine float.

A finite value is kept in its only canonical form: the mantissa is below `2 ^ 53`, and it is at
least `2 ^ 52` unless the exponent is the least one.
-/

namespace FlowLint

/-- A 64-bit binary floating-point number. All payloads of a nan are one value. -/
inductive Binary64 where
  | finite (negative : Bool) (mantissa : Nat) (exponent : Int)
  | infinite (negative : Bool)
  | nan
deriving DecidableEq, Repr, Inhabited

namespace Binary64

/-- The exponent of the subnormal numbers. -/
def minExponent : Int := -1074

/-- The exponent of the largest finite numbers. -/
def maxExponent : Int := 971

def zero (negative : Bool) : Binary64 :=
  .finite negative 0 minExponent

/-- A quotient rounded to the nearest integer, a half going to the even neighbour. -/
def roundHalfEven (num den : Nat) : Nat :=
  let q := num / den
  let r := num % den
  if 2 * r < den then q
  else if den < 2 * r then q + 1
  else if q % 2 = 0 then q
  else q + 1

/-- A numerator and a denominator of `num / den` over `2 ^ e`. -/
def scaleDown (num den : Nat) (e : Int) : Nat × Nat :=
  if 0 ≤ e then (num, den * Nat.pow 2 e.toNat) else (num * Nat.pow 2 (-e).toNat, den)

/-- The number nearest to `± num / den`, a tie going to the even mantissa; beyond the largest finite
number it is infinite. The first guess at the exponent, taken from bit lengths, is right or one too
small. -/
def ofRatio (negative : Bool) (num den : Nat) : Binary64 :=
  if num = 0 then zero negative
  else
    let guess : Int := max ((num.log2 : Int) - den.log2 - 53) minExponent
    let rough := scaleDown num den guess
    let exponent := if rough.1 / rough.2 < Nat.pow 2 53 then guess else guess + 1
    let exact := scaleDown num den exponent
    let mantissa := roundHalfEven exact.1 exact.2
    let carried := mantissa = Nat.pow 2 53
    let exponent := if carried then exponent + 1 else exponent
    if maxExponent < exponent then .infinite negative
    else .finite negative (if carried then Nat.pow 2 52 else mantissa) exponent

/-- The number nearest to `± digits · 10 ^ exponent`. A value whose bit length is far outside the
range is decided without its power of ten. -/
def ofDecimal (negative : Bool) (digits : Nat) (exponent : Int) : Binary64 :=
  let bits : Int := digits.log2
  if digits = 0 then zero negative
  else if 0 ≤ exponent then
    if 1100 < bits + 3 * exponent then .infinite negative
    else ofRatio negative (digits * Nat.pow 10 exponent.toNat) 1
  else if bits + 3 * exponent < -1100 then zero negative
  else ofRatio negative digits (Nat.pow 10 (-exponent).toNat)

def ofInt (n : Int) : Binary64 :=
  ofRatio (n < 0) n.natAbs 1

/-- The same magnitude with the sign flipped when asked for. -/
def negateIf (flip : Bool) : Binary64 → Binary64
  | .finite negative m e => .finite (negative != flip) m e
  | .infinite negative => .infinite (negative != flip)
  | .nan => .nan

/-- The exact order of a number against an integer; a nan has none. -/
def compareInt (x : Binary64) (n : Int) : Option Ordering :=
  match x with
  | .finite negative m e =>
    let signed : Int := if negative then -m else m
    some (if 0 ≤ e then compare (signed * Nat.pow 2 e.toNat) n
      else compare signed (n * Nat.pow 2 (-e).toNat))
  | .infinite negative => some (if negative then .lt else .gt)
  | .nan => none

/-- The integer that a finite number without a fraction is. -/
def toInt? : Binary64 → Option Int
  | .finite negative m e =>
    let signed : Int := if negative then -m else m
    if 0 ≤ e then some (signed * Nat.pow 2 e.toNat)
    else
      let unit : Int := Nat.pow 2 (-e).toNat
      if signed % unit = 0 then some (signed / unit) else none
  | _ => none

/-- Two numbers with one place on the number line: the zeros are one number, and a nan has no place.
-/
def same (x y : Binary64) : Bool :=
  match x, y with
  | .nan, _ => false
  | .finite _ 0 _, .finite _ 0 _ => true
  | _, _ => x == y

/-- The numerator of a finite number over `2 ^ 1074`. -/
def units (negative : Bool) (m : Nat) (e : Int) : Int :=
  let magnitude : Int := m * Nat.pow 2 (e - minExponent).toNat
  if negative then -magnitude else magnitude

/-- The rounded sum of two numbers. Two equal magnitudes of opposite signs make a positive zero. -/
def add : Binary64 → Binary64 → Binary64
  | .finite s m e, .finite s' m' e' =>
    let sum := units s m e + units s' m' e'
    if sum = 0 then zero (s && s' && m == 0) else ofRatio (sum < 0) sum.natAbs (Nat.pow 2 1074)
  | .nan, _ | _, .nan => .nan
  | .infinite s, .infinite s' => if s = s' then .infinite s else .nan
  | .infinite s, _ | _, .infinite s => .infinite s

def mul : Binary64 → Binary64 → Binary64
  | .finite s m e, .finite s' m' e' =>
    ofRatio (s != s') (units s m e * units s' m' e').natAbs (Nat.pow 2 2148)
  | .nan, _ | _, .nan => .nan
  | .infinite s, .infinite s' => .infinite (s != s')
  | .infinite s, .finite s' m _ | .finite s' m _, .infinite s =>
    if m = 0 then .nan else .infinite (s != s')

end Binary64

end FlowLint
