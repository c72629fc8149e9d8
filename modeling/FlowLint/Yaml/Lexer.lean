import FlowLint.Yaml.Token

/-!
# Splitting a YAML text into tokens

The lexer follows indentation and looks for keys. A key is known only by the colon behind it, so the
place of every token that could start one is remembered, one for each level of flow collections;
when the colon comes, the key token and perhaps the start of a block mapping are put in before that
token. A remembered place is forgotten at the end of its line or after 1024 characters, and that is
a fault when the place was one where a key had to stand.

A fault ends the tokens, and those before it count (`TokenRun`): whoever reads them may find another
fault first. A token counts once no token can be put in before it any more.
-/

namespace FlowLint.Yaml

/-- A token that may turn out to be a key: its number, where it starts, and whether a key must stand
there. -/
structure KeyCandidate where
  number : Nat
  required : Bool
  index : Nat
  line : Nat
  column : Nat

/-- The state between two tokens. -/
structure Lexer where
  cursor : Cursor
  tokens : Array Token := #[]
  /-- How many flow collections are open. -/
  flowLevel : Nat := 0
  /-- The column of the innermost block collection, and those of the collections around it. -/
  indent : Int := -1
  outerIndents : List Int := []
  /-- A key may start here. -/
  keyAllowed : Bool := true
  /-- The candidates by flow level. -/
  candidates : List (Nat × KeyCandidate) := []
  /-- The end of the text has been passed. -/
  ended : Bool := false

namespace Lexer

/-- The longest key, in characters. -/
def maxKeyLength : Nat := 1024

def inFlow (lexer : Lexer) : Bool :=
  lexer.flowLevel != 0

def push (lexer : Lexer) (token : Token) : Lexer :=
  { lexer with tokens := lexer.tokens.push token }

def advance (lexer : Lexer) (count : Nat) : Lexer :=
  { lexer with cursor := lexer.cursor.skip count }

/-- The candidate has been left behind. -/
def isStale (lexer : Lexer) (candidate : KeyCandidate) : Bool :=
  candidate.line != lexer.cursor.line || maxKeyLength < lexer.cursor.index - candidate.index

/-- Forgets the candidates that have been left behind. -/
def dropStale (lexer : Lexer) : Except Fault Lexer :=
  if lexer.candidates.any fun c => lexer.isStale c.2 && c.2.required then
    .error (.malformed .keyWithoutColon)
  else
    .ok { lexer with candidates := lexer.candidates.filter fun c => !lexer.isStale c.2 }

/-- Forgets the candidate of the current flow level. -/
def dropCandidate (lexer : Lexer) : Except Fault Lexer :=
  if lexer.candidates.any fun c => c.1 == lexer.flowLevel && c.2.required then
    .error (.malformed .keyWithoutColon)
  else
    .ok { lexer with candidates := lexer.candidates.filter fun c => c.1 != lexer.flowLevel }

/-- Remembers that the next token may be a key. In a block collection a key must stand at its
column. -/
def saveCandidate (lexer : Lexer) : Except Fault Lexer :=
  if lexer.keyAllowed then do
    let required := !lexer.inFlow && lexer.indent == lexer.cursor.column
    let lexer ← lexer.dropCandidate
    let candidate : KeyCandidate :=
      ⟨lexer.tokens.size, required, lexer.cursor.index, lexer.cursor.line, lexer.cursor.column⟩
    return { lexer with candidates := (lexer.flowLevel, candidate) :: lexer.candidates }
  else .ok lexer

/-- Closes the block collections that are indented more than the column. -/
def closeBlocks (column : Int) (lexer : Lexer) : Nat → Lexer
  | 0 => lexer
  | fuel + 1 =>
    if !lexer.inFlow && column < lexer.indent then
      match lexer.outerIndents with
      | outer :: rest =>
        closeBlocks column { lexer.push .blockEnd with indent := outer, outerIndents := rest } fuel
      | [] => lexer
    else lexer

def unwind (column : Int) (lexer : Lexer) : Lexer :=
  lexer.closeBlocks column (lexer.outerIndents.length + 1)

/-- Opens a block collection at a column deeper than the current one, its start token being put in
at the given number. -/
def openBlock (lexer : Lexer) (column : Nat) (start : Token) (number : Nat) : Lexer :=
  if lexer.indent < column then
    { lexer with
      tokens := lexer.tokens.insertIdxIfInBounds number start
      indent := column
      outerIndents := lexer.indent :: lexer.outerIndents }
  else lexer

def openBlockHere (lexer : Lexer) (start : Token) : Lexer :=
  lexer.openBlock lexer.cursor.column start lexer.tokens.size

/-- Passes spaces, comments and line ends. Outside flow collections a key may start on a new line.
-/
def passBlanks (lexer : Lexer) : Nat → Lexer
  | 0 => lexer
  | fuel + 1 =>
    let cursor := lexer.cursor.skipWhile (· == ' ')
    let cursor := if starts (· == '#') cursor.rest then cursor.skipWhile (!isBreak ·) else cursor
    match cursor.lineEnd? with
    | some (_, after) =>
      let keyAllowed := lexer.keyAllowed || !lexer.inFlow
      passBlanks { lexer with cursor := after, keyAllowed } fuel
    | none => { lexer with cursor }

/-! ## One token of each kind -/

/-- The end of the text closes all blocks, and nothing in front of it can become a key. -/
def streamEnd (lexer : Lexer) : Except Fault Lexer := do
  let lexer ← (lexer.unwind (-1)).dropCandidate
  return { lexer.push .streamEnd with candidates := [], ended := true }

/-- Closes all blocks, as before a directive or a document marker. -/
def leaveDocument (lexer : Lexer) : Except Fault Lexer := do
  let lexer ← (lexer.unwind (-1)).dropCandidate
  return { lexer with keyAllowed := false }

def directiveLine (lexer : Lexer) : Except Fault Lexer := do
  let lexer ← lexer.leaveDocument
  let (token, after) ← directive lexer.cursor
  return { lexer.push token with cursor := after }

def marker (lexer : Lexer) (token : Token) : Except Fault Lexer := do
  let lexer ← lexer.leaveDocument
  return (lexer.push token).advance 3

/-- The opening of a flow collection, which may be a key as a whole. -/
def flowStart (lexer : Lexer) (token : Token) : Except Fault Lexer := do
  let lexer ← lexer.saveCandidate
  return { (lexer.push token).advance 1 with flowLevel := lexer.flowLevel + 1, keyAllowed := true }

def flowEnd (lexer : Lexer) (token : Token) : Except Fault Lexer := do
  let lexer ← lexer.dropCandidate
  return { (lexer.push token).advance 1 with flowLevel := lexer.flowLevel - 1, keyAllowed := false }

/-- The comma between the parts of a flow collection. -/
def flowEntry (lexer : Lexer) : Except Fault Lexer := do
  let lexer ← lexer.dropCandidate
  return { (lexer.push .flowEntry).advance 1 with keyAllowed := true }

/-- An entry or a key mark: in block context it needs a place where a key may start, and opens a
collection there. -/
def blockMark (lexer : Lexer) (start token : Token) (problem : Problem) (keyAllowed : Bool) :
    Except Fault Lexer := do
  if !lexer.inFlow && !lexer.keyAllowed then throw (.malformed problem)
  let lexer := if lexer.inFlow then lexer else lexer.openBlockHere start
  let lexer ← lexer.dropCandidate
  return { (lexer.push token).advance 1 with keyAllowed }

/-- A colon: the candidate of this level becomes the key, or else the key is complex or empty. -/
def valueMark (lexer : Lexer) : Except Fault Lexer :=
  match lexer.candidates.lookup lexer.flowLevel with
  | some candidate =>
    let tokens := lexer.tokens.insertIdxIfInBounds candidate.number .key
    let candidates := lexer.candidates.filter fun c => c.1 != lexer.flowLevel
    let lexer := { lexer with tokens, candidates, keyAllowed := false }
    let lexer :=
      if lexer.inFlow then lexer
      else lexer.openBlock candidate.column .blockMappingStart candidate.number
    .ok ((lexer.push .value).advance 1)
  | none => lexer.blockMark .blockMappingStart .value .valueNotAllowed (!lexer.inFlow)

/-- A token that may be a key, read by the given reader. -/
def keyLike (lexer : Lexer) (read : Cursor → Except Fault (Token × Cursor)) :
    Except Fault Lexer := do
  let lexer ← lexer.saveCandidate
  let (token, after) ← read lexer.cursor
  return { lexer.push token with cursor := after, keyAllowed := false }

/-- A block scalar. It is no key, and a key may start behind it. -/
def blockScalarToken (lexer : Lexer) (folded : Bool) : Except Fault Lexer := do
  let lexer ← lexer.dropCandidate
  let (text, after) ← blockScalar folded lexer.indent lexer.cursor
  let token := Token.scalar (String.ofList text) false
  return { lexer.push token with cursor := after, keyAllowed := true }

/-- A plain scalar. A key may start behind it when a line end follows. -/
def plainToken (lexer : Lexer) : Except Fault Lexer := do
  let lexer ← lexer.saveCandidate
  let found := plainScalar lexer.inFlow (lexer.indent + 1) lexer.cursor
  return {
    lexer.push (.scalar (String.ofList found.text) true) with
    cursor := found.cursor
    keyAllowed := found.newLine }

/-- A plain scalar may start with the character, of which `rest` follows: with no indicator, or with
a hyphen, and in block context a question mark or a colon, before a character that is no gap. -/
def startsPlain (flow : Bool) (c : Char) (rest : List Char) : Bool :=
  (!isGapOrBreak c && !"-?:,[]\x7b\x7d#&*!|>'\"%@\x60".toList.contains c)
    || (starts (!isGapOrBreak ·) rest && (c == '-' || (!flow && (c == '?' || c == ':'))))

/-- Reads the token at the cursor, which starts with `c`. -/
def token (lexer : Lexer) (c : Char) (rest : List Char) : Except Fault Lexer :=
  let flow := lexer.inFlow
  let lineStart := lexer.cursor.column == 0
  let gapFollows := startsOrEnds isGapOrBreak rest
  if c == '%' && lineStart then lexer.directiveLine
  else if lineStart && isMarker '-' (c :: rest) then lexer.marker .documentStart
  else if lineStart && isMarker '.' (c :: rest) then lexer.marker .documentEnd
  else if c == '[' then lexer.flowStart .flowSequenceStart
  else if c == '\x7b' then lexer.flowStart .flowMappingStart
  else if c == ']' then lexer.flowEnd .flowSequenceEnd
  else if c == '\x7d' then lexer.flowEnd .flowMappingEnd
  else if c == ',' then lexer.flowEntry
  else if c == '-' && gapFollows then
    lexer.blockMark .blockSequenceStart .blockEntry .entryNotAllowed true
  else if c == '?' && (flow || gapFollows) then
    lexer.blockMark .blockMappingStart .key .keyNotAllowed (!flow)
  else if c == ':' && (flow || gapFollows) then lexer.valueMark
  else if c == '*' then
    lexer.keyLike fun cursor => (anchorName cursor).map fun (name, after) => (.alias name, after)
  else if c == '&' then
    lexer.keyLike fun cursor => (anchorName cursor).map fun (name, after) => (.anchor name, after)
  else if c == '!' then lexer.keyLike tagToken
  else if c == '|' && !flow then lexer.blockScalarToken false
  else if c == '>' && !flow then lexer.blockScalarToken true
  else if c == '\'' || c == '"' then
    lexer.keyLike fun cursor =>
      (quotedScalar (c == '"') cursor).map fun (text, after) =>
        (.scalar (String.ofList text) false, after)
  else if startsPlain flow c rest then lexer.plainToken
  else .error (.malformed .noToken)

/-! ## All tokens -/

/-- Reads the next token, or passes the end of the text. -/
def step (lexer : Lexer) : Except Fault Lexer := do
  let lexer ← (lexer.passBlanks (lexer.cursor.rest.length + 1)).dropStale
  let lexer := lexer.unwind lexer.cursor.column
  match lexer.cursor.rest with
  | [] => lexer.streamEnd
  | c :: rest => (← lexer.token c rest).dropStale

/-- The tokens in front of the first candidate: no token can be put in among them any more. -/
def settled (lexer : Lexer) : List Token :=
  lexer.tokens.toList.take
    ((lexer.candidates.map (·.2.number)).foldl min lexer.tokens.size)

end Lexer

/-- The tokens of a text, and the fault that stands in place of more tokens. A run without a fault
ends in `Token.streamEnd`. -/
structure TokenRun where
  tokens : List Token
  fault : Option Fault

namespace TokenRun

/-- Reads tokens up to the end of the text or a fault. Every token takes a character, so the fuel,
one more than the length of the text, never runs out. -/
def ofLexer (lexer : Lexer) : Nat → TokenRun
  | 0 => ⟨lexer.settled, none⟩
  | fuel + 1 =>
    match lexer.step with
    | .error fault => ⟨lexer.settled, some fault⟩
    | .ok next => if next.ended then ⟨next.settled, none⟩ else ofLexer next fuel

/-- The tokens of a text. A byte order mark at its start is passed. -/
def ofText (text : List Char) : TokenRun :=
  if text.any (!isAllowed ·) then ⟨[], some (.malformed .unprintableCharacter)⟩
  else
    let start : Cursor := { rest := text }
    let start := if starts (· == '\uFEFF') text then start.next else start
    ofLexer { cursor := start } (text.length + 1)

end TokenRun

end FlowLint.Yaml
