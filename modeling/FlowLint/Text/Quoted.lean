import FlowLint.Number.Digits
import FlowLint.Text.Printable

/-!
# Quoted texts

A text in quotes, on one line and in printable characters only: apostrophes stand around it unless
it holds an apostrophe and no quotation mark, and what is not printable is an escape. Octets are
quoted in the same way behind a letter b, those of ASCII standing for their characters.
-/

namespace FlowLint.Text

/-- A number in hexadecimal of at least the given width, in small letters. -/
def hexText (width n : Nat) : List Char :=
  let digits := Nat.toDigits 16 n
  List.replicate (width - digits.length) '0' ++ digits

/-- The mark that stands around a quoted text. -/
def quoteMark (cs : List Char) : Char :=
  if cs.contains '\'' && !cs.contains '"' then '"' else '\''

/-- The escape of a character that is not printable: the short ones for tab and line ends, and
otherwise the code point in two, four or eight hexadecimal digits. -/
def escapeUnprintable (c : Char) : List Char :=
  if c = '\t' then ['\\', 't']
  else if c = '\n' then ['\\', 'n']
  else if c = '\r' then ['\\', 'r']
  else if c.toNat < 0x100 then '\\' :: 'x' :: hexText 2 c.toNat
  else if c.toNat < 0x10000 then '\\' :: 'u' :: hexText 4 c.toNat
  else '\\' :: 'U' :: hexText 8 c.toNat

def quoteChar (mark c : Char) : List Char :=
  if c = mark ∨ c = '\\' then ['\\', c]
  else if isPrintable c then [c]
  else escapeUnprintable c

def quoted (s : String) : String :=
  let cs := s.toList
  let mark := quoteMark cs
  String.ofList (mark :: cs.flatMap (quoteChar mark) ++ [mark])

def quoteOctet (mark : Char) (b : UInt8) : List Char :=
  let c := Char.ofNat b.toNat
  if c = mark ∨ c = '\\' then ['\\', c]
  else if 0x20 ≤ b ∧ b < 0x7F then [c]
  else escapeUnprintable c

def quotedOctets (octets : List UInt8) : String :=
  let mark := quoteMark (octets.map fun b => Char.ofNat b.toNat)
  String.ofList ('b' :: mark :: octets.flatMap (quoteOctet mark) ++ [mark])

end FlowLint.Text
