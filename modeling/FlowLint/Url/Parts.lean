import FlowLint.Text.Blank
import FlowLint.Text.Lookalike
import FlowLint.Text.Quoted
import FlowLint.Url.Address

/-!
# The parts of a URL

Splitting a URL into scheme and network location. The scheme is in small letters; either part is
empty when the URL has none. A location with brackets must hold an address in them, and a location
beyond ASCII must not hold lookalikes of the characters that delimit parts.
-/

namespace FlowLint.Url

open FlowLint.Text

/-- Why a network location is refused. -/
inductive Fault where
  | brackets
  | futureAddress
  | version4InBrackets
  | noAddress (host : String)
  | lookalike (location : String)
deriving DecidableEq, Repr

/-- The scheme and the network location of a URL. -/
structure Parts where
  scheme : List Char
  location : List Char
deriving DecidableEq, Repr

/-- The text that is split: without blanks at the ends, without control characters and spaces in
front, and without tabs and line ends anywhere. -/
def clean (url : List Char) : List Char :=
  ((trim url).dropWhile (·.toNat ≤ 0x20)).filter fun c => c != '\t' && c != '\r' && c != '\n'

def isSchemeChar (c : Char) : Bool :=
  c.isAlphanum || c == '+' || c == '-' || c == '.'

def isScheme (cs : List Char) : Bool :=
  match cs with
  | c :: _ => c.isAlpha && cs.all isSchemeChar
  | [] => false

/-- The scheme before the first colon, and the text after it. Without a scheme nothing is cut off.
-/
def splitScheme (cs : List Char) : List Char × List Char :=
  match splitFirst ':' cs with
  | (before, some after) => if isScheme before then (before.map Char.toLower, after) else ([], cs)
  | _ => ([], cs)

/-- A character that ends a network location. -/
def endsLocation (c : Char) : Bool :=
  c == '/' || c == '?' || c == '#'

/-- The network location after two slashes. -/
def locationOf (cs : List Char) : List Char :=
  match cs with
  | '/' :: '/' :: rest => rest.takeWhile (!endsLocation ·)
  | _ => []

/-- The fault of what stands in the brackets of a network location. -/
def hostFault? (host : List Char) : Option Fault :=
  if host.head? = some 'v' then
    if isFutureVersion host then none else some .futureAddress
  else if isVersion4 host then some .version4InBrackets
  else if isVersion6 host then none
  else some (.noAddress (String.ofList host))

/-- The fault of a network location with brackets. Only the text after the last at sign counts:
there is nothing before the bracket, and at most a port after it. -/
def bracketFault? (location : List Char) : Option Fault :=
  let target := afterLast '@' location
  match splitFirst '[' target with
  | (before, some inside) =>
    if !before.isEmpty then some .brackets
    else
      let (host, after) := splitFirst ']' inside
      let port := after.getD []
      if !port.isEmpty && port.head? != some ':' then some .brackets
      else hostFault? host
  | (_, none) => hostFault? (splitFirst ':' target).1

def locationFault? (location : List Char) : Option Fault :=
  let opened := location.contains '['
  let closed := location.contains ']'
  let brackets :=
    if opened && closed then bracketFault? location
    else if opened || closed then some .brackets
    else none
  brackets <|>
    if location.any isDelimiterLookalike then some (.lookalike (String.ofList location)) else none

def split (url : List Char) : Except Fault Parts :=
  let (scheme, rest) := splitScheme (clean url)
  let location := locationOf rest
  match locationFault? location with
  | some fault => .error fault
  | none => .ok ⟨scheme, location⟩

def Fault.message : Fault → String
  | .brackets => "Invalid IPv6 URL"
  | .futureAddress => "IPvFuture address is invalid"
  | .version4InBrackets => "An IPv4 address cannot be in brackets"
  | .noAddress host => quoted host ++ " does not appear to be an IPv4 or IPv6 address"
  | .lookalike location =>
    "netloc '" ++ location ++ "' contains invalid characters under NFKC normalization"

end FlowLint.Url
