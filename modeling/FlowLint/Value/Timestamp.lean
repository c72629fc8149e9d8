import FlowLint.Number.Digits

/-!
# Calendar dates and moments

What a document can say about time: a date, or a date with a time of day and perhaps an offset from
universal time. Both are checked against the proleptic Gregorian calendar when they are made.
-/

namespace FlowLint

/-- A day of the calendar. -/
structure Date where
  year : Nat
  month : Nat
  day : Nat
deriving DecidableEq, Repr, Inhabited

/-- A time of day. -/
structure Clock where
  hour : Nat
  minute : Nat
  second : Nat
  microsecond : Nat
deriving DecidableEq, Repr, Inhabited

/-- A date alone, or a moment; the offset of a moment is in minutes, positive to the east. -/
inductive Timestamp where
  | date (date : Date)
  | moment (date : Date) (clock : Clock) (offset : Option Int)
deriving DecidableEq, Repr, Inhabited

/-- Why numbers do not form a timestamp. -/
inductive CalendarFault where
  | year (year : Nat)
  | month
  | day
  | hour
  | minute
  | second
  | offset (minutes : Int)
deriving DecidableEq, Repr

/-- Every fourth year is a leap year, but of the full centuries only every fourth one. -/
def isLeapYear (year : Nat) : Bool :=
  year % 4 == 0 && (year % 100 != 0 || year % 400 == 0)

/-- The length of a month; months are counted from one. -/
def daysInMonth (year month : Nat) : Nat :=
  match month with
  | 2 => if isLeapYear year then 29 else 28
  | 4 | 6 | 9 | 11 => 30
  | _ => 31

/-- The first fault of a date, its year being looked at first and its day last. -/
def Date.fault? (d : Date) : Option CalendarFault :=
  if d.year = 0 then some (.year d.year)
  else if d.month < 1 ∨ 12 < d.month then some .month
  else if d.day < 1 ∨ daysInMonth d.year d.month < d.day then some .day
  else none

/-- The first fault of a time of day. There is no leap second. -/
def Clock.fault? (c : Clock) : Option CalendarFault :=
  if 23 < c.hour then some .hour
  else if 59 < c.minute then some .minute
  else if 59 < c.second then some .second
  else none

/-- An offset is shorter than a day. -/
def offsetFault? (offset : Option Int) : Option CalendarFault :=
  match offset with
  | some minutes => if minutes.natAbs < 1440 then none else some (.offset minutes)
  | none => none

/-- The first fault of a timestamp; an offset is made before the date it goes with. -/
def Timestamp.fault? : Timestamp → Option CalendarFault
  | .date d => d.fault?
  | .moment d c offset => (offsetFault? offset <|> d.fault?) <|> c.fault?

/-- The days from the start of the year one to the start of a year. -/
def daysBeforeYear (year : Nat) : Nat :=
  let y := year - 1
  365 * y + y / 4 - y / 100 + y / 400

/-- The number of a day, the first of January of the year one being one. -/
def Date.dayNumber (d : Date) : Nat :=
  (List.range (d.month - 1)).foldl (fun days m => days + daysInMonth d.year (m + 1))
    (daysBeforeYear d.year) + d.day

/-- The microseconds of a moment on the common time line. -/
def instant (d : Date) (c : Clock) (offset : Int) : Int :=
  let minutes : Int := (d.dayNumber * 24 + c.hour) * 60 + c.minute - offset
  (minutes * 60 + c.second) * 1000000 + c.microsecond

/-- Two timestamps are one key when they are equal, moments with offsets being compared on the
common time line. -/
def Timestamp.same : Timestamp → Timestamp → Bool
  | .moment d c (some offset), .moment d' c' (some offset') =>
    instant d c offset == instant d' c' offset'
  | t, t' => t == t'

/-- Year, month and day, divided by hyphens. -/
def Date.text (d : Date) : String :=
  paddedText 4 d.year ++ "-" ++ paddedText 2 d.month ++ "-" ++ paddedText 2 d.day

/-- Hours, minutes and seconds, and six more digits when there are microseconds. -/
def Clock.text (c : Clock) : String :=
  paddedText 2 c.hour ++ ":" ++ paddedText 2 c.minute ++ ":" ++ paddedText 2 c.second
    ++ if c.microsecond = 0 then "" else "." ++ paddedText 6 c.microsecond

/-- A sign, hours and minutes. -/
def offsetText (minutes : Int) : String :=
  (if minutes < 0 then "-" else "+") ++ paddedText 2 (minutes.natAbs / 60) ++ ":"
    ++ paddedText 2 (minutes.natAbs % 60)

/-- The text of a timestamp: date and time with a space between them, and the offset if any. -/
def Timestamp.text : Timestamp → String
  | .date d => d.text
  | .moment d c offset => d.text ++ " " ++ c.text ++ (offset.map offsetText).getD ""

/-- A length of time as its constructor call: days towards the past are negative, seconds are not.
-/
def durationTerm (minutes : Int) : String :=
  let days := Int.fdiv minutes 1440
  let seconds := Int.fmod minutes 1440 * 60
  let parts :=
    (if days = 0 then [] else ["days=" ++ integerText days])
      ++ (if seconds = 0 then [] else ["seconds=" ++ integerText seconds])
  "datetime.timedelta(" ++ (if parts.isEmpty then "0" else ", ".intercalate parts) ++ ")"

/-- A zone as its constructor call; universal time has a name. -/
def zoneTerm (minutes : Int) : String :=
  if minutes = 0 then "datetime.timezone.utc"
  else "datetime.timezone(" ++ durationTerm minutes ++ ")"

/-- The numbers of a date and a time of day; trailing zero seconds and microseconds are left out. -/
def momentFields (d : Date) (c : Clock) : List Nat :=
  [d.year, d.month, d.day, c.hour, c.minute]
    ++ if c.microsecond ≠ 0 then [c.second, c.microsecond]
      else if c.second ≠ 0 then [c.second]
      else []

/-- The constructor call that a quoted timestamp is shown as. -/
def Timestamp.term : Timestamp → String
  | .date d =>
    "datetime.date(" ++ ", ".intercalate ([d.year, d.month, d.day].map numberText) ++ ")"
  | .moment d c offset =>
    "datetime.datetime("
      ++ ", ".intercalate ((momentFields d c).map numberText)
      ++ ((offset.map fun minutes => ", tzinfo=" ++ zoneTerm minutes).getD "") ++ ")"

def CalendarFault.message : CalendarFault → String
  | .year n => "year " ++ numberText n ++ " is out of range"
  | .month => "month must be in 1..12"
  | .day => "day is out of range for month"
  | .hour => "hour must be in 0..23"
  | .minute => "minute must be in 0..59"
  | .second => "second must be in 0..59"
  | .offset minutes =>
    "offset must be a timedelta strictly between -timedelta(hours=24) and timedelta(hours=24), not "
      ++ durationTerm minutes ++ "."

end FlowLint
