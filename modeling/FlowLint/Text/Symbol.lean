import FlowLint.Text.Blank
import FlowLint.Text.LowerCase
import FlowLint.Text.Split
import FlowLint.Text.SymbolNames

/-!
# Symbols written by name

An emoji may be written as its name between colons. The name may end in a tone of skin, where the
emoji has such tones, and in a hyphen and the word `text` or `emoji`, which asks for the symbol as
text or as picture. What is between colons and names no symbol stays as it is.
-/

namespace FlowLint.Text

/-- The symbol of a name among names and symbols by turns. -/
def symbolAmong? (name : List Char) : List (List Char) → Option (List Char)
  | known :: symbol :: rest => if known = name then some symbol else symbolAmong? name rest
  | _ => none

/-- The symbol of a name in lines of names and symbols. -/
def symbolIn? (lines : List String) (name : List Char) : Option (List Char) :=
  lines.findSome? fun line => symbolAmong? name (splitAll ' ' line.toList)

/-- The ends of names that ask for a tone of skin, with the modifiers for the tones. -/
def skinTones : List (String × Char) :=
  [("_light_skin_tone", Char.ofNat 0x1F3FB),
    ("_medium-light_skin_tone", Char.ofNat 0x1F3FC),
    ("_medium_skin_tone", Char.ofNat 0x1F3FD),
    ("_medium-dark_skin_tone", Char.ofNat 0x1F3FE),
    ("_dark_skin_tone", Char.ofNat 0x1F3FF)]

def beforeEnding? (ending : String) (cs : List Char) : Option (List Char) :=
  if ending.toList.isSuffixOf cs then some (cs.take (cs.length - ending.length)) else none

/-- A symbol in a tone of skin: the modifier follows the first character, in place of the selector
of the picture. -/
def toned (tone : Char) : List Char → List Char
  | first :: '\uFE0F' :: rest => first :: tone :: rest
  | first :: rest => first :: tone :: rest
  | [] => []

def symbol? (name : List Char) : Option (List Char) :=
  symbolIn? symbolLines name <|> symbolIn? tonedSymbolLines name <|>
    skinTones.findSome? fun (ending, tone) => do
      return toned tone (← symbolIn? tonedSymbolLines (← beforeEnding? ending name))

/-- The ends of names that ask for text or picture, with their selectors. -/
def presentations : List (String × Char) :=
  [("-text", '\uFE0E'), ("-emoji", '\uFE0F')]

/-- The symbol that stands for what is written between two colons. -/
def namedSymbol? (code : List Char) : Option (List Char) :=
  let asked := presentations.findSome? fun (ending, selector) =>
    (beforeEnding? ending code).map fun name => (name, [selector])
  let (name, selector) := asked.getD (code, [])
  (symbol? (lower name)).map (· ++ selector)

/-- The text with symbols for names, given its parts behind colons. A name holds no blank, and its
second colon begins no other name. -/
def withSymbolsBehind : List (List Char) → List Char
  | [] => []
  | [last] => ':' :: last
  | code :: next :: more =>
    if code.any isBlank then ':' :: code ++ withSymbolsBehind (next :: more)
    else (namedSymbol? code).getD (':' :: code ++ [':']) ++ next ++ withSymbolsBehind more

/-- The text with symbols in the place of their names. -/
def withSymbols (cs : List Char) : List Char :=
  match splitAll ':' cs with
  | first :: behind => first ++ withSymbolsBehind behind
  | [] => []

end FlowLint.Text
