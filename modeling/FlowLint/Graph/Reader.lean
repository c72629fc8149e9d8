import FlowLint.Graph.Basic
import FlowLint.Text.Utf8
import FlowLint.Value.Written

/-!
# Reading workflows

The graph that a document describes. A document is refused for a fault of structure only: the
workflow, its node list, its connection table and its nodes have their shapes, the keys of the
workflow, of nodes and of their parameters and credentials are texts, and a number that stands for a
text can be written. Fields of a node that have an unexpected kind are brought to an empty value.
-/

namespace FlowLint

/-- The fields of a node that are texts, or numbers in place of texts. -/
inductive TextField where
  | id
  | name
  | type
deriving DecidableEq, Repr

/-- The member of a node that holds the field. -/
def TextField.memberName : TextField → String
  | .id => "id"
  | .name => "name"
  | .type => "type"

/-- The parts of a node whose keys are checked with it. -/
inductive NodeBag where
  | parameters
  | credentials
deriving DecidableEq, Repr

def NodeBag.name : NodeBag → String
  | .parameters => "parameters"
  | .credentials => "credentials"

/-- What keeps a document of the right shape from being a workflow, and where it is: a number
without a text in place of one, or a key that is no text. -/
inductive GraphIssue where
  | longNumeral (position : Nat) (field : TextField)
  | bagKey (position : Nat) (bag : NodeBag) (key : Scalar)
  | nodeKey (position : Nat) (key : Scalar)
  | workflowKey (key : Scalar)
deriving DecidableEq, Repr

/-- A key as a step of a place: the truth values stand for the integers one and zero. -/
def keyStep (key : Scalar) : String :=
  match key with
  | .text s => s
  | .bool b => if b then "1" else "0"
  | _ => if key.isWritable then key.quoted else "<unprintable int object>"

/-- The place of an issue in the document, step by step from the workflow. The last step tells that
the key of a bag is meant and not its value. -/
def GraphIssue.place : GraphIssue → List String
  | .longNumeral position field => ["nodes", numberText position, field.memberName]
  | .bagKey position bag key => ["nodes", numberText position, bag.name, keyStep key, "[key]"]
  | .nodeKey position key => ["nodes", numberText position, keyStep key]
  | .workflowKey key => [keyStep key]

/-- Why a document is no workflow. -/
inductive GraphFault where
  | notMapping
  | nodesNotList
  | connectionsNotMapping
  | nodeNotMapping (position : Nat) (kind : String)
  | mismatch (issues : List GraphIssue)
deriving Repr

def GraphFault.message : GraphFault → String
  | .notMapping => "Workflow must be a mapping with 'nodes' and 'connections'."
  | .nodesNotList => "Property 'nodes' must be a list."
  | .connectionsNotMapping => "Property 'connections' must be a mapping."
  | .nodeNotMapping position kind =>
    "Node entry " ++ numberText position ++ " must be a mapping, got " ++ kind ++ "."
  | .mismatch _ => "Workflow does not match the graph model"

namespace Node

/-- The members of a node that have a meaning. -/
def knownMembers : List String :=
  ["id", "name", "type", "typeVersion", "parameters", "credentials", "disabled"]

/-- A text, or the text of a number. -/
def scalarText? (stated : Option Value) : Option String :=
  match stated with
  | some (.text s) => some s
  | some value => value.number?.map (·.text)
  | none => none

/-- The field is stated by a number that has no text. -/
def statesLongNumeral (entry : Members) (field : TextField) : Bool :=
  match (entry.get? field.memberName).bind Value.number? with
  | some n => !n.isWritable
  | none => false

/-- The key in a bag: octets are read as the text that they are in UTF-8. -/
def bagKey (key : Scalar) : Scalar :=
  match key with
  | .octets bytes =>
    match Utf8.decode bytes with
    | .ok cs => .text (String.ofList cs)
    | .error _ => key
  | _ => key

/-- A key of octets. -/
def isOctets : Scalar → Bool
  | .octets _ => true
  | _ => false

/-- The members of a mapping, with keys of octets read as texts; anything else has none. -/
def bag (stated : Option Value) : Members :=
  let members := (stated.bind Value.members?).getD []
  if members.any fun member => isOctets member.1 then
    Members.ofPairs (members.map fun (key, value) => (bagKey key, value))
  else members

/-- The node that the members of an entry describe. -/
def ofMembers (entry : Members) : Node where
  id := scalarText? (entry.get? "id")
  name := (scalarText? (entry.get? "name")).getD ""
  type := (scalarText? (entry.get? "type")).getD ""
  typeVersion := (entry.get? "typeVersion").getD .null
  parameters := bag (entry.get? "parameters")
  credentials := bag (entry.get? "credentials")
  disabled := Param.isTrue (entry.get? "disabled")
  extra := entry.without knownMembers

/-- The issues of an entry: numbers without a text, keys of its parameters and of its credentials
that are no texts, and its own such keys. -/
def issues (position : Nat) (entry : Members) : List GraphIssue :=
  let inBag (b : NodeBag) (members : Members) : List GraphIssue :=
    members.keysNotText.map (GraphIssue.bagKey position b)
  let unwritable := [TextField.id, .name, .type].filter (statesLongNumeral entry)
  unwritable.map (GraphIssue.longNumeral position)
    ++ inBag .parameters (bag (entry.get? "parameters"))
    ++ inBag .credentials (bag (entry.get? "credentials"))
    ++ entry.keysNotText.map (GraphIssue.nodeKey position)

end Node

namespace Graph

/-- The members of a workflow that have a meaning. -/
def knownMembers : List String := ["name", "nodes", "connections"]

/-- The members of the node entries, or the fault of the first entry that is no mapping. -/
def entries (position : Nat) : List Value → Except GraphFault (List Members)
  | [] => .ok []
  | value :: rest =>
    match value.members? with
    | some members => do return members :: (← entries (position + 1) rest)
    | none => .error (.nodeNotMapping position value.kindName)

/-- The connection table; an absent one is empty. -/
def table (stated : Option Value) : Except GraphFault Members :=
  match stated with
  | none | some .null => .ok []
  | some value =>
    match value.members? with
    | some members => .ok members
    | none => .error .connectionsNotMapping

/-- The issues of a workflow, node by node and then those of its own keys. -/
def issues (workflow : Members) (entries : List Members) : List GraphIssue :=
  entries.zipIdx.flatMap (fun (entry, position) => Node.issues position entry)
    ++ workflow.keysNotText.map .workflowKey

/-- The graph that a document describes. The faults are looked for in the order of `GraphFault`. -/
def ofValue (document : Value) : Except GraphFault Graph :=
  match document.members? with
  | none => .error .notMapping
  | some workflow => do
    let stated ←
      match (workflow.get? "nodes").bind Value.items? with
      | some nodes => pure nodes
      | none => throw .nodesNotList
    let connections ← table (workflow.get? "connections")
    let nodes ← entries 0 stated
    match issues workflow nodes with
    | [] =>
      return {
        name := (workflow.get? "name").bind Value.text?
        nodes := nodes.map Node.ofMembers
        connections
        extra := workflow.without knownMembers }
    | issues => throw (.mismatch issues)

end Graph

end FlowLint
