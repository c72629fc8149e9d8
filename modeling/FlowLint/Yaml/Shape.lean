import FlowLint.Text.Lines
import FlowLint.Text.Split
import FlowLint.Yaml.Tag
import FlowLint.Yaml.TimestampText

/-!
# What the shape of a scalar shows

A scalar without a tag, or with the tag that leaves its kind open, has the kind that its shape shows
(`Tag.ofShape`): a word for null or a truth value, an integer in base two, eight, ten, sixteen or
sixty, a decimal fraction, a date or a moment, one of the signs with a meaning of their own; every
other one is a text. One line end behind the shape does not count.
-/

namespace FlowLint.Yaml

/-- Digits of a class with underscores among them, at least one character. -/
def isSpaced (digit : Char → Bool) (cs : List Char) : Bool :=
  !cs.isEmpty && cs.all fun c => digit c || c == '_'

/-- Decimal digits with underscores after the first of them, which is in the given class. -/
def isSpacedFrom (first : Char → Bool) (cs : List Char) : Bool :=
  match cs with
  | c :: rest => first c && rest.all fun c => isDigit c || c == '_'
  | [] => false

/-- A digit that starts a numeral without leading zeros. -/
def isLeadingDigit (c : Char) : Bool :=
  '1' ≤ c && c ≤ '9'

/-- A part of a numeral in base sixty after the first: a number below sixty of one or two digits. -/
def isSixtieth (cs : List Char) : Bool :=
  match cs with
  | [a] => isDigit a
  | [a, b] => '0' ≤ a && a ≤ '5' && isDigit b
  | _ => false

/-- A numeral in base sixty of at least two parts. -/
def isSexagesimal (first : Char → Bool) (cs : List Char) : Bool :=
  match Text.splitAll ':' cs with
  | head :: part :: parts => isSpacedFrom first head && (part :: parts).all isSixtieth
  | _ => false

def isIntegerShape (cs : List Char) : Bool :=
  let body := (splitSign cs).2
  match body with
  | '0' :: 'b' :: digits => isSpaced (fun c => c == '0' || c == '1') digits
  | '0' :: 'x' :: digits => isSpaced (fun c => (digitValue? c).isSome) digits
  | ['0'] => true
  | '0' :: digits => isSpaced (fun c => '0' ≤ c && c ≤ '7') digits
  | _ => isSpacedFrom isLeadingDigit body || isSexagesimal isLeadingDigit body

/-- Nothing, or a letter e, a sign and digits. -/
def isExponentShape (cs : List Char) : Bool :=
  match cs with
  | [] => true
  | e :: sign :: digits =>
    (e == 'e' || e == 'E') && (sign == '+' || sign == '-') && !digits.isEmpty && digits.all isDigit
  | _ => false

/-- The digits after a point, and an exponent. -/
def isFractionShape (cs : List Char) : Bool :=
  isExponentShape (cs.dropWhile fun c => isDigit c || c == '_')

/-- The names of infinity and of the value that is no number, after the point before them. -/
def infinityNames : List (List Char) := ["inf".toList, "Inf".toList, "INF".toList]

@[inherit_doc infinityNames]
def nanNames : List (List Char) := ["nan".toList, "NaN".toList, "NAN".toList]

/-- The shape of a floating-point number. A sign stands before digits or infinity only. -/
def isFloatShape (cs : List Char) : Bool :=
  let body := (splitSign cs).2
  let whole := body.takeWhile (· != '.')
  match body.dropWhile (· != '.') with
  | '.' :: fraction =>
    if whole.isEmpty then
      infinityNames.contains fraction
        || (body.length == cs.length
          && (nanNames.contains fraction
            || (isSpacedFrom isDigit (fraction.take 1) && isFractionShape fraction)))
    else if isSpacedFrom isDigit whole then isFractionShape fraction
    else isSexagesimal isDigit whole && fraction.all fun c => isDigit c || c == '_'
  | _ => false

/-- The words for the truth values, in small letters. -/
def truthWords : List (String × Bool) :=
  [("yes", true), ("no", false), ("true", true), ("false", false), ("on", true), ("off", false)]

/-- A word in small letters, in capitals, or with a capital initial. -/
def isCasedWord (word : String) (cs : List Char) : Bool :=
  let small := word.toList
  cs == small || cs == small.map Char.toUpper
    || cs == (small.take 1).map Char.toUpper ++ small.drop 1

def isNullShape (cs : List Char) : Bool :=
  cs.isEmpty || cs == ['~'] || isCasedWord "null" cs

/-- The signs that are kept for YAML itself. -/
def reservedSigns : List (List Char) := [['!'], ['&'], ['*']]

def Tag.ofExactShape (cs : List Char) : Tag :=
  if isNullShape cs then .null
  else if truthWords.any fun word => isCasedWord word.1 cs then .bool
  else if isFloatShape cs then .float
  else if isIntegerShape cs then .int
  else if cs == ['<', '<'] then .merge
  else if (timestamp? 2 cs).isSome then .timestamp
  else if cs == ['='] then .defaultValue
  else if reservedSigns.contains cs then .other (Tag.standardStart ++ "yaml")
  else .text

/-- The kind that the shape of a scalar shows, whether or not a line end stands behind it. A line
end alone is a text. -/
def Tag.ofShape (cs : List Char) : Tag :=
  if cs == ['\n'] then .text else ofExactShape (Text.dropFinalLineEnd cs)

end FlowLint.Yaml
