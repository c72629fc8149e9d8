import FlowLint.Number.Binary64

/-!
# Shortest decimal texts

The text of a floating-point number: the fewest digits that read back as the number, of those the
nearest to it, and of two as near the one with the even last digit. The digits are looked for on
ever finer decimal grids, in exact arithmetic.
-/

namespace FlowLint.Binary64

/-- A decimal `digits · 10 ^ exponent`. -/
structure Decimal where
  digits : Nat
  exponent : Int
deriving DecidableEq, Repr

/-- The values that round to one number, as multiples of a quarter of its last place: the value, the
two ends, and whether the ends belong to it. -/
structure RoundingInterval where
  value : Nat
  low : Nat
  high : Nat
  closed : Bool
  /-- The exponent of two of a quarter of the last place. -/
  exponent : Int

/-- The interval that rounds to `m · 2 ^ e`. Below a power of two the neighbours are twice as dense,
and the ends belong to the interval when the mantissa is even. -/
def roundingInterval (m : Nat) (e : Int) : RoundingInterval where
  value := 4 * m
  low := if m = Nat.pow 2 52 ∧ minExponent < e then 4 * m - 1 else 4 * m - 2
  high := 4 * m + 2
  closed := m % 2 = 0
  exponent := e - 2

/-- Numbers that compare as `a · 2 ^ e` and `b · 10 ^ g` do. -/
def commensurate (a : Nat) (e : Int) (b : Nat) (g : Int) : Nat × Nat :=
  (a * Nat.pow 2 e.toNat * Nat.pow 10 (-g).toNat, b * Nat.pow 10 g.toNat * Nat.pow 2 (-e).toNat)

/-- The best point of the grid of `10 ^ g` in the interval, if one of the two points around the
value lies in it. -/
def RoundingInterval.gridPoint? (interval : RoundingInterval) (g : Int) : Option Nat :=
  let unit := (commensurate 0 interval.exponent 1 g).2
  let scale := (commensurate 1 interval.exponent 0 g).1
  let value := interval.value * scale
  let below := value / unit
  let above := below + 1
  let reachesBelow :=
    if interval.closed then interval.low * scale ≤ below * unit
    else interval.low * scale < below * unit
  let reachesAbove :=
    if interval.closed then above * unit ≤ interval.high * scale
    else above * unit < interval.high * scale
  let down := value - below * unit
  let up := above * unit - value
  if reachesBelow ∧ reachesAbove then
    if down < up then some below
    else if up < down then some above
    else if below % 2 = 0 then some below
    else some above
  else if reachesBelow then some below
  else if reachesAbove then some above
  else none

/-- The first of the grids `10 ^ g`, `10 ^ (g - 1)`, … that has a point in the interval. -/
def RoundingInterval.search (interval : RoundingInterval) (g : Int) : Nat → Option Decimal
  | 0 => none
  | tries + 1 =>
    match interval.gridPoint? g with
    | some digits => some ⟨digits, g⟩
    | none => interval.search (g - 1) tries

/-- The exponent `k` with `10 ^ k ≤ m · 2 ^ e < 10 ^ (k + 1)`, from an estimate that is right or one
too small. -/
def decimalMagnitude (m : Nat) (e : Int) : Int :=
  let estimate := (((m.log2 : Int) + e) * 30103) / 100000
  let pair := commensurate m e 1 (estimate + 1)
  if pair.1 < pair.2 then estimate else estimate + 1

/-- The shortest decimal of a positive magnitude. Seventeen digits always suffice; a grid coarser
than the magnitude has only its own zero below, which lies outside the interval. -/
def shortestDecimal (m : Nat) (e : Int) : Decimal :=
  let interval := roundingInterval m e
  (interval.search (decimalMagnitude m e) 18).getD ⟨interval.value, 0⟩

/-- A numeral without its trailing zeros, and how many it had. -/
def dropTrailingZeros (digits : List Char) : List Char × Nat :=
  let kept := (digits.reverse.dropWhile (· == '0')).reverse
  (kept, digits.length - kept.length)

/-- The least and the greatest power of ten of the leading digit that are written without an
exponent. -/
def leastPositional : Int := -4

@[inherit_doc leastPositional]
def greatestPositional : Int := 15

/-- The text of a decimal: positional with at least one digit on each side of the point, or one
digit before the point and an exponent of at least two digits with its sign. -/
def Decimal.text (d : Decimal) : String :=
  let kept := (dropTrailingZeros (decimalDigits d.digits)).1
  let size : Int := (decimalDigits d.digits).length
  let leading := size + d.exponent - 1
  if leastPositional ≤ leading ∧ leading ≤ greatestPositional then
    if leading < 0 then
      String.ofList (['0', '.'] ++ List.replicate (-leading - 1).toNat '0' ++ kept)
    else
      let whole := leading.toNat + 1
      let front := kept.take whole ++ List.replicate (whole - kept.length) '0'
      let back := kept.drop whole
      String.ofList (front ++ ['.'] ++ if back.isEmpty then ['0'] else back)
  else
    let fraction := if (kept.drop 1).isEmpty then [] else '.' :: kept.drop 1
    String.ofList (kept.take 1 ++ fraction ++ ['e', if leading < 0 then '-' else '+'])
      ++ paddedText 2 leading.natAbs

/-- The text of a number: the shortest decimal, `inf` or `nan`, with a minus sign where the number
has one. -/
def text : Binary64 → String
  | .finite negative m e =>
    (if negative then "-" else "") ++ (if m = 0 then "0.0" else (shortestDecimal m e).text)
  | .infinite negative => if negative then "-inf" else "inf"
  | .nan => "nan"

end FlowLint.Binary64
