import FlowLint.Number.Digits
import FlowLint.Text.Quoted
import FlowLint.Value.Timestamp

/-!
# Faults of YAML texts

Three kinds of fault end the reading of a YAML text. A malformed text breaks the rules of tokens, of
structure, of anchors or of tags; only the fact is reported. A bad value is a scalar of a legal
shape that denotes nothing, such as a day that no month has; its wording is part of the report. A
misfit is a text of which the kind that its tag asks for can make nothing at all; it is no matter of
the document only, and readers pass it on.
-/

namespace FlowLint.Yaml

/-- The rules that a malformed text can break. -/
inductive Problem where
  | unprintableCharacter
  | noToken
  | keyWithoutColon
  | entryNotAllowed
  | keyNotAllowed
  | valueNotAllowed
  | badDirective
  | badAnchor
  | badTag
  | badBlockHeader
  | badEscape
  | unclosedQuote
  | markerInQuotes
  | expectedDocument
  | repeatedDirective
  | unsupportedVersion
  | unknownTagHandle
  | expectedNode
  | unclosedBlock
  | unclosedFlow
  | severalDocuments
  | unknownAlias
  | repeatedAnchor
  | unknownTag
  | tagMismatch
  | collectionAsKey
  | badMerge
  | badBase64
deriving DecidableEq, Repr

/-- Why a scalar denotes no value. -/
inductive BadValue where
  | calendar (fault : CalendarFault)
  | integer (base : Nat) (text : String)
  | tooManyDigits (count : Nat)
  | float (text : String)
  | codePoint
deriving DecidableEq, Repr

/-- Of what nothing can be made: a word that is no truth value, a numeral without any character, a
text or a mapping in place of a timestamp, a code point that is no 32-bit integer, a power of sixty
that is no floating-point number, and a node too deep inside others, or inside itself without end.
-/
inductive Misfit where
  | truthWord (word : String)
  | emptyNumeral
  | timestampText
  | timestampMapping
  | codePoint
  | power
  | tooDeep
deriving DecidableEq, Repr

/-- Why a text is no YAML document. -/
inductive Fault where
  | malformed (problem : Problem)
  | badValue (cause : BadValue)
  | misfit (cause : Misfit)
deriving DecidableEq, Repr

/-- How much of a quoted numeral is shown. -/
def shownNumeral : Nat := 200

def BadValue.message : BadValue → String
  | .calendar fault => fault.message
  | .integer base text =>
    "invalid literal for int() with base " ++ numberText base ++ ": "
      ++ String.ofList ((Text.quoted text).toList.take shownNumeral)
  | .tooManyDigits count => tooManyDigitsMessage count
  | .float text => "could not convert string to float: " ++ Text.quoted text
  | .codePoint => "chr() arg not in range(0x110000)"

def Misfit.message : Misfit → String
  | .truthWord word => Text.quoted word
  | .emptyNumeral => "string index out of range"
  | .timestampText => "'NoneType' object has no attribute 'groupdict'"
  | .timestampMapping => "expected string or bytes-like object, got 'list'"
  | .codePoint => "Python int too large to convert to C int"
  | .power => "int too large to convert to float"
  | .tooDeep => "maximum recursion depth exceeded"

end FlowLint.Yaml
