import FlowLint.Params

/-!
# Workflow graphs

A workflow has nodes and a connection table. The table is kept as it is written: under the name of a
source node the outputs by port, for each port a list of slots, and in each slot a list of targets.
Entries of any other shape are passed over when the table is read.

Capabilities such as a language model are wired from provider to consumer: the model is the source
and the agent its target, on a port named for the capability.
-/

namespace FlowLint

/-- The ports that the checks know. -/
inductive Port where
  | main
  | languageModel
  | memory
  | tool
  | embedding
  | vectorStore
  | document
  | textSplitter
  | outputParser
deriving DecidableEq, Repr

namespace Port

/-- The ports, the main one first. -/
def all : List Port :=
  [.main, .languageModel, .memory, .tool, .embedding, .vectorStore, .document, .textSplitter,
    .outputParser]

def name : Port → String
  | .main => "main"
  | .languageModel => "ai_languageModel"
  | .memory => "ai_memory"
  | .tool => "ai_tool"
  | .embedding => "ai_embedding"
  | .vectorStore => "ai_vectorStore"
  | .document => "ai_document"
  | .textSplitter => "ai_textSplitter"
  | .outputParser => "ai_outputParser"

end Port

/-- A node of a workflow. -/
structure Node where
  id : Option String
  name : String
  type : String
  typeVersion : Value
  parameters : Members
  credentials : Members
  disabled : Bool
  /-- The members that mean nothing here. -/
  extra : Members
deriving Repr, Inhabited

/-- Where an entry of a slot leads: a node by name, and the index of its input. -/
structure Target where
  node : String
  index : Int
deriving DecidableEq, Repr

/-- A workflow. -/
structure Graph where
  name : Option String
  nodes : List Node
  connections : Members
  /-- The members that mean nothing here. -/
  extra : Members
deriving Repr, Inhabited

/-- The input index that an entry states; anything but an integer is the first input. -/
def Target.indexOf (stated : Option Value) : Int :=
  match stated with
  | some (.int n) => n
  | _ => 0

/-- The target that an entry is, if it is a mapping that names a node. -/
def Target.ofValue? (entry : Value) : Option Target := do
  let members ← entry.members?
  match members.get? "node" with
  | some (.text name) =>
    if name = "" then none else some ⟨name, indexOf (members.get? "index")⟩
  | _ => none

def slotTargets (entries : List Value) : List Target :=
  entries.filterMap Target.ofValue?

/-- The slots of a port and their positions. What is no list is no slot, but takes a position. -/
def portSlots (slots : List Value) : List (Nat × List Target) :=
  slots.zipIdx.filterMap fun (slot, position) =>
    slot.items?.map fun entries => (position, slotTargets entries)

namespace Graph

def outputs (g : Graph) (source : String) : Members :=
  ((g.connections.get? source).bind Value.members?).getD []

/-- The slots of a port of a source, each with its position and its targets. -/
def slots (g : Graph) (source port : String) : List (Nat × List Target) :=
  portSlots ((((g.outputs source).get? port).bind Value.items?).getD [])

/-- The targets of a port of a source, slot by slot. -/
def outbound (g : Graph) (source port : String) : List Target :=
  (g.slots source port).flatMap (·.2)

def mainTargets (g : Graph) (source : String) : List Target :=
  g.outbound source Port.main.name

def portsOf (g : Graph) (source : String) : List Scalar :=
  (g.outputs source).map (·.1)

def node? (g : Graph) (name : String) : Option Node :=
  g.nodes.find? (·.name == name)

/-- The position of the first node of a name. -/
def position? (g : Graph) (name : String) : Option Nat :=
  g.nodes.findIdx? (·.name == name)

/-- The names of the nodes, each once, in the order of their first nodes. -/
def names (g : Graph) : List String :=
  (g.nodes.map (·.name)).eraseDups

/-- The position of the last node of a name. -/
def lastPosition (g : Graph) (name : String) : Nat :=
  g.nodes.length - 1 - g.nodes.reverse.findIdx (·.name == name)

/-- The last node of a name. -/
def lastNode? (g : Graph) (name : String) : Option Node :=
  g.nodes.reverse.find? (·.name == name)

end Graph

end FlowLint
