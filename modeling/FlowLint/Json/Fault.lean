import FlowLint.Number.Digits

/-!
# Faults of JSON texts

What can be wrong with a JSON text, where it is, and how it is worded.
-/

namespace FlowLint.Json

/-- What a JSON text breaks. -/
inductive Problem where
  | byteOrderMark
  | expectingValue
  | expectingName
  | expectingColon
  | expectingComma
  | extraData
  | unterminatedString
  | controlCharacter
  | badEscape
  | badUnicodeEscape
deriving DecidableEq, Repr

/-- A place in a text: the count of characters before it, and its line and column, from one. -/
structure Position where
  offset : Nat
  line : Nat
  column : Nat
deriving DecidableEq, Repr

/-- The two kinds of collections. -/
inductive Collection where
  | array
  | object
deriving DecidableEq, Repr

def Collection.name : Collection → String
  | .array => "array"
  | .object => "object"

/-- Why a text is no JSON document: it breaks the grammar at a place, an integer has more digits
than are read, or a collection stands inside more collections than are opened. -/
inductive Fault where
  | malformed (problem : Problem) (position : Position)
  | tooManyDigits (count : Nat)
  | tooDeep (collection : Collection)
deriving DecidableEq, Repr

def Position.after (before : List Char) : Position where
  offset := before.length
  line := before.count '\n' + 1
  column := (before.reverse.takeWhile (· != '\n')).length + 1

def Problem.message : Problem → String
  | .byteOrderMark => "Unexpected UTF-8 BOM (decode using utf-8-sig)"
  | .expectingValue => "Expecting value"
  | .expectingName => "Expecting property name enclosed in double quotes"
  | .expectingColon => "Expecting ':' delimiter"
  | .expectingComma => "Expecting ',' delimiter"
  | .extraData => "Extra data"
  | .unterminatedString => "Unterminated string starting at"
  | .controlCharacter => "Invalid control character at"
  | .badEscape => "Invalid \\escape"
  | .badUnicodeEscape => "Invalid \\uXXXX escape"

def Position.message (p : Position) : String :=
  "line " ++ numberText p.line ++ " column " ++ numberText p.column ++ " (char "
    ++ numberText p.offset ++ ")"

/-- The wording for a collection inside too many others. -/
def tooDeepMessage (collection : Collection) : String :=
  "maximum recursion depth exceeded while decoding a JSON " ++ collection.name
    ++ " from a unicode string"

def Fault.message : Fault → String
  | .malformed problem position => problem.message ++ ": " ++ position.message
  | .tooManyDigits count => tooManyDigitsMessage count
  | .tooDeep collection => tooDeepMessage collection

end FlowLint.Json
