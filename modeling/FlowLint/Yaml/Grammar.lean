import FlowLint.Yaml.Document
import FlowLint.Yaml.Lexer
import FlowLint.Yaml.Shape

/-!
# The grammar of YAML documents

Reading the one document that a run of tokens holds (`Document.ofTokens?`). Anchors and aliases are
resolved on the way: an alias names a node that has been begun before, and an anchor names one node
only. Collections stand inside one another up to a certain depth.

The grammar is followed by descent, and the fault that ends the tokens is met when the token in its
place is asked for. Fuel bounds the descent. Each step down or along takes a token or is the last
before one is taken, so twice the count of tokens is enough.
-/

namespace FlowLint.Yaml

/-- The tag handles of a document and what they stand for. -/
abbrev TagHandles := List (String × String)

def defaultHandles : TagHandles := [("!", "!"), ("!!", Tag.standardStart)]

/-- The state between two tokens. -/
structure Reading where
  tokens : List Token
  /-- What stands in place of more tokens. -/
  fault : Fault
  handles : TagHandles := defaultHandles
  document : Document := {}
  anchors : List (String × NodeId) := []
  /-- The collections around the next token, the innermost first. -/
  around : List NodeId := []

/-- A step of the reading. -/
abbrev Read (α : Type) := StateT Reading (Except Fault) α

namespace Read

def refuse (problem : Problem) : Read α :=
  throw (.malformed problem)

def peek : Read Token := do
  let state ← get
  match state.tokens with
  | token :: _ => return token
  | [] => throw state.fault

def advance : Read Unit :=
  modify fun state => { state with tokens := state.tokens.tail }

/-- Passes the next token if it is the given one; the answer tells whether it was. -/
def accept (token : Token) : Read Bool := do
  if (← peek) == token then
    advance
    return true
  else return false

/-! ## Nodes and their properties -/

/-- The properties of a node: its anchor and its full tag. -/
structure Properties where
  anchor : Option String := none
  tag : Option String := none

/-- The kind of a collection, which is the given one unless a tag says otherwise. -/
def Properties.collectionTag (properties : Properties) (own : Tag) : Tag :=
  match properties.tag with
  | some uri => if uri = "!" then own else .ofUri uri
  | none => own

/-- The kind of a scalar: by its tag, by its shape when it is plain or has the open tag, else text.
-/
def Properties.scalarTag (properties : Properties) (plain : Bool) (text : String) : Tag :=
  match properties.tag with
  | none => if plain then .ofShape text.toList else .text
  | some uri => if uri = "!" then .ofShape text.toList else .ofUri uri

def fullTag (tag : TagText) : Read String := do
  match tag.handle with
  | none => return tag.suffix
  | some handle =>
    match (← get).handles.lookup handle with
    | some text => return text ++ tag.suffix
    | none => refuse .unknownTagHandle

/-- The properties in front of a node, an anchor and a tag in either order. -/
def properties : Read Properties := do
  match ← peek with
  | .anchor name =>
    advance
    match ← peek with
    | .tag tag =>
      advance
      return ⟨some name, some (← fullTag tag)⟩
    | _ => return ⟨some name, none⟩
  | .tag tag =>
    advance
    match ← peek with
    | .anchor name =>
      advance
      return ⟨some name, some (← fullTag tag)⟩
    | _ => return ⟨none, some (← fullTag tag)⟩
  | _ => return {}

/-- A new node, known under its anchor from now on. -/
def declare (anchor : Option String) (node : Node) : Read NodeId := do
  let state ← get
  let id := state.document.nodes.size
  let anchors ←
    match anchor with
    | none => pure state.anchors
    | some name =>
      if (state.anchors.lookup name).isSome then refuse .repeatedAnchor
      else pure ((name, id) :: state.anchors)
  set { state with document := state.document.add node, anchors }
  return id

def scalar (properties : Properties) (plain : Bool) (text : String) : Read NodeId :=
  declare properties.anchor ⟨properties.scalarTag plain text, .scalar text⟩

/-- The node that stands where nothing is written. -/
def absent : Read NodeId :=
  scalar {} true ""

/-- How many collections may stand inside one another. As in `Json.maxDepth` one number stands for
the room that is left on a stack of calls, two of which a collection takes up here. -/
def maxDepth : Nat := 488

/-- A new collection. Its node is there before its parts are read, so that they can refer to it. -/
def collection (anchor : Option String) (tag : Tag) (parts : Read Content) : Read NodeId := do
  let id ← declare anchor ⟨tag, default⟩
  if maxDepth ≤ (← get).around.length then throw (.misfit .tooDeep)
  modify fun state => { state with around := id :: state.around }
  let content ← parts
  modify fun state =>
    { state with document := state.document.setContent id content, around := state.around.tail }
  return id

def aliased (name : String) : Read NodeId := do
  let state ← get
  match state.anchors.lookup name with
  | none => refuse .unknownAlias
  | some id =>
    let looped := state.document.looped || state.around.contains id
    set { state with document := { state.document with looped } }
    return id

/-! ## Collections -/

/-- The node that is read, or the absent one before a token of the given class. -/
def orAbsent (ends : Token → Bool) (read : Read NodeId) : Read NodeId := do
  if ends (← peek) then absent else read

/-- The entry of a block sequence is absent before this token. -/
def endsEntry (token : Token) : Bool :=
  token == .blockEntry || token == .blockEnd

/-- A part of a block mapping is absent before this token. -/
def endsMember (token : Token) : Bool :=
  token == .key || token == .value || token == .blockEnd

/-- A value in a flow collection that is closed by `close` is absent before this token. -/
def endsFlowPart (close token : Token) : Bool :=
  token == .flowEntry || token == close

/-- A key in a flow collection that is closed by `close` is absent before this token. -/
def endsFlowKey (close token : Token) : Bool :=
  token == .value || endsFlowPart close token

/-- Passes the comma that stands before every part of a flow collection but the first. -/
def separator (first : Bool) : Read Unit := do
  unless first do
    unless ← accept .flowEntry do refuse .unclosedFlow

mutual

/-- A node. A block collection is allowed where `block` holds, and a sequence whose entries are not
indented where `indentless` holds. -/
def node (block indentless : Bool) : Nat → Read NodeId
  | 0 => refuse .expectedNode
  | fuel + 1 => do
    match ← peek with
    | .alias name =>
      advance
      aliased name
    | _ =>
      let properties ← properties
      let sequence (items : Read (List NodeId)) : Read NodeId :=
        collection properties.anchor (properties.collectionTag .sequence)
          (do return .sequence (← items))
      let mapping (members : Read (List (NodeId × NodeId))) : Read NodeId :=
        collection properties.anchor (properties.collectionTag .mapping)
          (do return .mapping (← members))
      match ← peek with
      | .scalar text plain =>
        advance
        scalar properties plain text
      | .flowSequenceStart => sequence (flowItems true [] fuel)
      | .flowMappingStart => mapping (flowMembers true [] fuel)
      | token =>
        if indentless && token == .blockEntry then sequence (indentlessItems [] fuel)
        else if block && token == .blockSequenceStart then sequence (blockItems true [] fuel)
        else if block && token == .blockMappingStart then mapping (blockMembers true [] fuel)
        else if properties.anchor.isSome || properties.tag.isSome then scalar properties true ""
        else refuse .expectedNode

/-- The entries of a block sequence and its end; `done` holds the items before, the last one first.
At the first step the start of the sequence is passed. -/
def blockItems (first : Bool) (done : List NodeId) : Nat → Read (List NodeId)
  | 0 => refuse .unclosedBlock
  | fuel + 1 => do
    if first then advance
    if ← accept .blockEnd then return done.reverse
    else if ← accept .blockEntry then
      let item ← orAbsent endsEntry (node true false fuel)
      blockItems false (item :: done) fuel
    else refuse .unclosedBlock

/-- The entries of a sequence at the indentation of the mapping around it. Any other token ends it.
-/
def indentlessItems (done : List NodeId) : Nat → Read (List NodeId)
  | 0 => refuse .unclosedBlock
  | fuel + 1 => do
    if ← accept .blockEntry then
      let item ← orAbsent (fun token => endsEntry token || endsMember token) (node true false fuel)
      indentlessItems (item :: done) fuel
    else return done.reverse

/-- The members of a block mapping and its end. -/
def blockMembers (first : Bool) (done : List (NodeId × NodeId)) :
    Nat → Read (List (NodeId × NodeId))
  | 0 => refuse .unclosedBlock
  | fuel + 1 => do
    if first then advance
    if ← accept .blockEnd then return done.reverse
    else if ← accept .key then
      let key ← orAbsent endsMember (node true true fuel)
      let value ←
        if ← accept .value then orAbsent endsMember (node true true fuel) else absent
      blockMembers false ((key, value) :: done) fuel
    else refuse .unclosedBlock

/-- A key behind its key token, and its value, which is absent without a colon. -/
def flowMember (close : Token) : Nat → Read (NodeId × NodeId)
  | 0 => refuse .unclosedFlow
  | fuel + 1 => do
    let key ← orAbsent (endsFlowKey close) (node false false fuel)
    let value ←
      if ← accept .value then orAbsent (endsFlowPart close) (node false false fuel) else absent
    return (key, value)

/-- The items of a flow sequence and its end. An item with a key is a mapping of one member. -/
def flowItems (first : Bool) (done : List NodeId) : Nat → Read (List NodeId)
  | 0 => refuse .unclosedFlow
  | fuel + 1 => do
    if first then advance
    if ← accept .flowSequenceEnd then return done.reverse
    else
      separator first
      if ← accept .flowSequenceEnd then return done.reverse
      else if ← accept .key then
        let item ← collection none .mapping
          (do return .mapping [← flowMember .flowSequenceEnd fuel])
        flowItems false (item :: done) fuel
      else
        let item ← node false false fuel
        flowItems false (item :: done) fuel

/-- The members of a flow mapping and its end. A member without a key token has no value. -/
def flowMembers (first : Bool) (done : List (NodeId × NodeId)) :
    Nat → Read (List (NodeId × NodeId))
  | 0 => refuse .unclosedFlow
  | fuel + 1 => do
    if first then advance
    if ← accept .flowMappingEnd then return done.reverse
    else
      separator first
      if ← accept .flowMappingEnd then return done.reverse
      else if ← accept .key then
        let member ← flowMember .flowMappingEnd fuel
        flowMembers false (member :: done) fuel
      else
        let key ← node false false fuel
        flowMembers false ((key, ← absent) :: done) fuel

end

/-! ## Documents -/

/-- Takes up the directives in front of a document. -/
def directives (version : Bool) (handles : TagHandles) : Nat → Read TagHandles
  | 0 => refuse .expectedDocument
  | fuel + 1 => do
    match ← peek with
    | .directive (.version major) =>
      advance
      if version then refuse .repeatedDirective
      else if major != 1 then refuse .unsupportedVersion
      else directives true handles fuel
    | .directive (.tagPrefix handle text) =>
      advance
      if (handles.lookup handle).isSome then refuse .repeatedDirective
      else directives version ((handle, text) :: handles) fuel
    | .directive (.other _) =>
      advance
      directives version handles fuel
    | _ => return handles

/-- Passes the ends of documents and what stands in front of the next one up to its marker. The
answer tells whether there is one. -/
def documentStart (fuel : Nat) : Read Bool := do
  modify fun state => { state with tokens := state.tokens.dropWhile (· == .documentEnd) }
  if (← peek) == .streamEnd then return false
  else
    let handles ← directives false [] fuel
    if ← accept .documentStart then
      modify fun state => { state with handles := handles ++ defaultHandles }
      return true
    else refuse .expectedDocument

/-- Nothing is written between the marker of a document and this token. -/
def endsDocument : Token → Bool
  | .directive _ | .documentStart | .documentEnd | .streamEnd => true
  | _ => false

/-- Reads the only document. The answer tells whether there is one. -/
def onlyDocument (fuel : Nat) : Read Bool := do
  let found ←
    match ← peek with
    | .directive _ | .documentStart | .streamEnd =>
      if ← documentStart fuel then
        let _ ← orAbsent endsDocument (node true false fuel)
        pure true
      else pure false
    | _ =>
      let _ ← node true false fuel
      pure true
  if found then
    if ← documentStart fuel then refuse .severalDocuments
  return found

end Read

/-- The only document of the tokens, or `none` when there is none. -/
def Document.ofTokens? (run : TokenRun) : Except Fault (Option Document) := do
  let start : Reading :=
    { tokens := run.tokens, fault := run.fault.getD (.malformed .expectedDocument) }
  let (found, state) ← (Read.onlyDocument (2 * run.tokens.length + 2)).run start
  return if found then some state.document else none

end FlowLint.Yaml
