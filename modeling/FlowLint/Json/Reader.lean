import FlowLint.Json.Fault
import FlowLint.Value.Basic

/-!
# Reading JSON

A reader of JSON texts. It also takes `NaN`, `Infinity` and `-Infinity` for numbers, keeps integers
apart from other numbers and the members of an object in their order; of equal names the last value
wins at the place of the first. Collections stand inside one another up to a certain depth. A
failure names its place by the rest of the text that starts there.
-/

namespace FlowLint.Json

/-- A failure at the place where the given rest of the text starts. -/
inductive Failure where
  | at (problem : Problem) (rest : List Char)
  | tooManyDigits (count : Nat)
  | tooDeep (collection : Collection)
deriving Repr

/-- The blanks between the tokens of a JSON text. -/
def isSpace (c : Char) : Bool :=
  c == ' ' || c == '\t' || c == '\n' || c == '\r'

def skipSpace (cs : List Char) : List Char :=
  cs.dropWhile isSpace

/-- The number of four hexadecimal digits. -/
def hexQuad? (a b c d : Char) : Option Nat :=
  numeral? 16 [a, b, c, d]

def isHighSurrogate (n : Nat) : Bool :=
  0xD800 ≤ n && n ≤ 0xDBFF

def isLowSurrogate (n : Nat) : Bool :=
  0xDC00 ≤ n && n ≤ 0xDFFF

/-- The character of a code unit. A half without its partner is no character, and the replacement
character stands for it. So two such halves read as the same, and as something that can be printed,
where a half cannot: what is said of printing is said of texts without them. -/
def unitChar (n : Nat) : Char :=
  if 0xD800 ≤ n ∧ n ≤ 0xDFFF then '\uFFFD' else Char.ofNat n

def pairChar (high low : Nat) : Char :=
  Char.ofNat (0x10000 + (high - 0xD800) * 0x400 + (low - 0xDC00))

/-- The character that a letter after a backslash stands for. -/
def shortEscape? : Char → Option Char
  | '"' => some '"'
  | '\\' => some '\\'
  | '/' => some '/'
  | 'b' => some '\x08'
  | 'f' => some '\x0C'
  | 'n' => some '\n'
  | 'r' => some '\r'
  | 't' => some '\t'
  | _ => none

/-- Reads the rest of a string after its opening quotation mark. `start` is the text from that mark
on, and `done` holds the characters so far, the last one first. A code unit needs a character after
its four digits, and so does the second of a pair. -/
def stringRest (start done : List Char) (cs : List Char) : Except Failure (String × List Char) :=
  match cs with
  | [] => .error (.at .unterminatedString start)
  | '"' :: rest => .ok (String.ofList done.reverse, rest)
  | '\\' :: rest =>
    match rest with
    | [] => .error (.at .unterminatedString start)
    | 'u' :: a :: b :: c :: d :: next :: tail =>
      match hexQuad? a b c d with
      | none => .error (.at .badUnicodeEscape rest)
      | some high =>
        if isHighSurrogate high then
          match _pair : next :: tail with
          | '\\' :: 'u' :: a' :: b' :: c' :: d' :: next' :: tail' =>
            match hexQuad? a' b' c' d' with
            | none => .error (.at .badUnicodeEscape tail)
            | some low =>
              if isLowSurrogate low then
                stringRest start (pairChar high low :: done) (next' :: tail')
              else stringRest start (unitChar high :: done) (next :: tail)
          | _ => stringRest start (unitChar high :: done) (next :: tail)
        else stringRest start (unitChar high :: done) (next :: tail)
    | 'u' :: _ => .error (.at .badUnicodeEscape rest)
    | c :: tail =>
      match shortEscape? c with
      | some e => stringRest start (e :: done) tail
      | none => .error (.at .badEscape cs)
  | c :: rest =>
    if c.toNat < 0x20 then .error (.at .controlCharacter cs)
    else stringRest start (c :: done) rest
termination_by cs.length
decreasing_by
  · have := congrArg List.length _pair
    simp only [List.length_cons] at *
    omega
  all_goals
    simp only [List.length_cons]
    omega

/-- The digits at the start of a text, and the rest. -/
def spanDigits (cs : List Char) : List Char × List Char :=
  cs.span isDigit

/-- A fraction at the start of a text: a point and at least one digit. -/
def fraction (cs : List Char) : List Char × List Char :=
  match cs with
  | '.' :: rest =>
    let (digits, after) := spanDigits rest
    if digits.isEmpty then ([], cs) else (digits, after)
  | _ => ([], cs)

/-- An exponent at the start of a text: a letter e, perhaps a sign, and at least one digit. -/
def exponent? (cs : List Char) : Option (Int × List Char) :=
  match cs with
  | c :: rest =>
    if c == 'e' || c == 'E' then
      let (negative, unsigned) : Bool × List Char :=
        match rest with
        | '-' :: more => (true, more)
        | '+' :: more => (false, more)
        | _ => (false, rest)
      let (digits, after) := spanDigits unsigned
      match numeral? 10 digits with
      | some n => some (if negative then -n else n, after)
      | none => none
    else none
  | [] => none

/-- The integer part at the start of a text: a zero, or digits that do not start with one. -/
def integerPart (cs : List Char) : List Char × List Char :=
  match cs with
  | '0' :: rest => (['0'], rest)
  | _ => spanDigits cs

/-- The value of a text of digits. -/
def digitsValue (digits : List Char) : Nat :=
  (numeralFrom? 10 0 digits).getD 0

/-- Reads a number. Without fraction and exponent it is an integer. -/
def number (start : List Char) : Except Failure (Scalar × List Char) :=
  let (negative, unsigned) : Bool × List Char :=
    match start with
    | '-' :: rest => (true, rest)
    | _ => (false, start)
  let (whole, afterWhole) := integerPart unsigned
  if whole.isEmpty then .error (.at .expectingValue start)
  else
    let (decimals, afterFraction) := fraction afterWhole
    match exponent? afterFraction with
    | some (e, rest) =>
      let digits := digitsValue (whole ++ decimals)
      .ok (.float (.ofDecimal negative digits (e - decimals.length)), rest)
    | none =>
      if decimals.isEmpty then
        if maxDigits < whole.length then .error (.tooManyDigits whole.length)
        else
          let n : Int := digitsValue whole
          .ok (.int (if negative then -n else n), afterFraction)
      else
        .ok (.float (.ofDecimal negative (digitsValue (whole ++ decimals)) (-decimals.length)),
          afterFraction)

/-- The literal names and the scalars they stand for. -/
def literals : List (List Char × Scalar) :=
  [("null".toList, .null), ("true".toList, .bool true), ("false".toList, .bool false),
    ("NaN".toList, .float .nan), ("Infinity".toList, .float (.infinite false)),
    ("-Infinity".toList, .float (.infinite true))]

def scalar (cs : List Char) : Except Failure (Scalar × List Char) :=
  match literals.findSome? fun (name, s) => (name.isPrefixOf? cs).map fun rest => (s, rest) with
  | some found => .ok found
  | none => number cs

mutual

/-- Reads a value at the start of a text. It may hold collections inside one another down to the
given depth. The fuel bounds the count of values, names and separators that are still to come. -/
def value (depth fuel : Nat) (cs : List Char) : Except Failure (Value × List Char) :=
  match fuel with
  | 0 => .error (.at .expectingValue cs)
  | fuel + 1 =>
    match cs with
    | '"' :: rest => do
      let (s, after) ← stringRest cs [] rest
      return (.text s, after)
    | '{' :: rest =>
      if depth = 0 then .error (.tooDeep .object)
      else
        match skipSpace rest with
        | '}' :: after => .ok (.map [], after)
        | first => members (depth - 1) fuel [] first
    | '[' :: rest =>
      if depth = 0 then .error (.tooDeep .array)
      else
        match skipSpace rest with
        | ']' :: after => .ok (.list [], after)
        | first => items (depth - 1) fuel [] first
    | _ => do
      let (s, after) ← scalar cs
      return (.scalar s, after)

/-- Reads the items of a list from the first one on; `done` holds those before, the last one first.
-/
def items (depth fuel : Nat) (done : List Value) (cs : List Char) :
    Except Failure (Value × List Char) :=
  match fuel with
  | 0 => .error (.at .expectingValue cs)
  | fuel + 1 => do
    let (item, after) ← value depth fuel cs
    match skipSpace after with
    | ']' :: rest => return (.list (item :: done).reverse, rest)
    | ',' :: rest => items depth fuel (item :: done) (skipSpace rest)
    | other => throw (.at .expectingComma other)

/-- Reads the members of an object from the first name on; `done` holds the members before. -/
def members (depth fuel : Nat) (done : Members) (cs : List Char) :
    Except Failure (Value × List Char) :=
  match fuel with
  | 0 => .error (.at .expectingName cs)
  | fuel + 1 =>
    match cs with
    | '"' :: rest => do
      let (name, afterName) ← stringRest cs [] rest
      match skipSpace afterName with
      | ':' :: beforeValue => do
        let (member, after) ← value depth fuel (skipSpace beforeValue)
        let done := done.set (.text name) member
        match skipSpace after with
        | '}' :: rest => return (.map done, rest)
        | ',' :: rest => members depth fuel done (skipSpace rest)
        | other => throw (.at .expectingComma other)
      | other => throw (.at .expectingColon other)
    | _ => .error (.at .expectingName cs)

end

/-- How many collections may stand inside one another. A program with a stack of calls has no such
number: it reads what the stack has room for where it happens to be, so that the limit is nearer to
a thousand for a file than for a text in a node. One number in that neighbourhood stands for all of
them here, and what is said of texts that are nested too deep holds whichever it is. -/
def maxDepth : Nat := 988

/-- Reads a whole text: one value with blanks around it. -/
def document (cs : List Char) : Except Failure Value :=
  match cs with
  | '\uFEFF' :: _ => .error (.at .byteOrderMark cs)
  | _ => do
    let (result, after) ← value maxDepth (2 * cs.length + 2) (skipSpace cs)
    match skipSpace after with
    | [] => return result
    | rest => throw (.at .extraData rest)

def Failure.fault (whole : List Char) : Failure → Fault
  | .at problem rest =>
    .malformed problem (Position.after (whole.take (whole.length - rest.length)))
  | .tooManyDigits count => .tooManyDigits count
  | .tooDeep collection => .tooDeep collection

def read (text : List Char) : Except Fault Value :=
  (document text).mapError (·.fault text)

/-- The text is a JSON object. Whether a text is one is not known when its collections stand too
deep inside one another. -/
def isObject (text : List Char) : Except Collection Bool :=
  match read text with
  | .ok (.map _) => .ok true
  | .error (.tooDeep collection) => .error collection
  | _ => .ok false

end FlowLint.Json
