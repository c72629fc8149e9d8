import FlowLint.Number.Digits
import FlowLint.Value.Timestamp

/-!
# Texts of dates and moments

The texts that YAML takes for timestamps: a date, or a date and a time of day with perhaps a
fraction of a second and an offset. Whether the numbers are those of a real day and time is not
asked here.
-/

namespace FlowLint.Yaml

/-- A number of one to `most` digits at the start of a text, at least `least`. -/
def boundedNumber? (least most : Nat) (cs : List Char) : Option (Nat × List Char) :=
  let digits := (cs.take most).takeWhile isDigit
  if least ≤ digits.length then (numeral? 10 digits).map fun n => (n, cs.drop digits.length)
  else none

def after? (c : Char) (cs : List Char) : Option (List Char) :=
  match cs with
  | d :: rest => if d == c then some rest else none
  | [] => none

/-- Three numbers around two hyphens, month and day having at least so many digits. -/
def datePart? (least : Nat) (cs : List Char) : Option (Date × List Char) := do
  let (year, rest) ← boundedNumber? 4 4 cs
  let (month, rest) ← boundedNumber? least 2 (← after? '-' rest)
  let (day, rest) ← boundedNumber? least 2 (← after? '-' rest)
  return (⟨year, month, day⟩, rest)

/-- The first six digits of a fraction of a second as microseconds. -/
def microseconds (digits : List Char) : Nat :=
  let kept := digits.take 6
  (numeralFrom? 10 0 (kept ++ List.replicate (6 - kept.length) '0')).getD 0

/-- Hours, minutes and seconds around two colons, and a fraction. -/
def clockPart? (cs : List Char) : Option (Clock × List Char) := do
  let (hour, rest) ← boundedNumber? 1 2 cs
  let (minute, rest) ← boundedNumber? 2 2 (← after? ':' rest)
  let (second, rest) ← boundedNumber? 2 2 (← after? ':' rest)
  match rest with
  | '.' :: more =>
    return (⟨hour, minute, second, microseconds (more.takeWhile isDigit)⟩, more.dropWhile isDigit)
  | _ => return (⟨hour, minute, second, 0⟩, rest)

/-- The offset at the end of a moment: none, the letter Z, or hours and perhaps minutes. The outer
option tells whether the shape is one of these. -/
def offsetPart? (cs : List Char) : Option (Option Int) :=
  let body := cs.dropWhile fun c => c == ' ' || c == '\t'
  match body with
  | [] => if cs.isEmpty then some none else none
  | ['Z'] => some (some 0)
  | sign :: rest =>
    if sign == '+' || sign == '-' then do
      let (hours, rest) ← boundedNumber? 1 2 rest
      let minutes ←
        match rest with
        | [] => some 0
        | _ => do
          let (minutes, rest) ← boundedNumber? 2 2 (← after? ':' rest)
          if rest.isEmpty then some minutes else none
      let total : Int := hours * 60 + minutes
      return some (if sign == '-' then -total else total)
    else none

/-- A moment: a date, a letter T or a gap, a time of day, and an offset. -/
def moment? (cs : List Char) : Option Timestamp := do
  let (date, rest) ← datePart? 1 cs
  let gap := rest.takeWhile fun c => c == ' ' || c == '\t'
  let beforeClock ←
    if gap.isEmpty then after? 't' rest <|> after? 'T' rest else some (rest.drop gap.length)
  let (clock, rest) ← clockPart? beforeClock
  return .moment date clock (← offsetPart? rest)

/-- A date alone, whose month and day have at least so many digits. -/
def date? (least : Nat) (cs : List Char) : Option Timestamp := do
  let (date, rest) ← datePart? least cs
  if rest.isEmpty then return .date date else none

def timestamp? (least : Nat) (cs : List Char) : Option Timestamp :=
  date? least cs <|> moment? cs

end FlowLint.Yaml
