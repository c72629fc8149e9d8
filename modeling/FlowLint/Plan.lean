import FlowLint.Graph.ReverseIndex
import FlowLint.NodeType

/-!
# Capability plans

The plan of a graph lists its nodes with the capabilities that are wired into them and their main
outputs. The nodes stand in the order in which work can be done: a node comes after the sources of
its edges, and of the nodes that could come next the one declared first does. When the edges form a
cycle there is no such order, and the nodes stand as they are declared.
-/

namespace FlowLint

namespace Plan

/-- The edges between nodes of the graph, source first. -/
def edges (g : Graph) (index : ReverseIndex) : List (String × String) :=
  index.entries.flatMap fun (target, inbound) =>
    if g.names.contains target then
      let declared := inbound.filter fun edge => g.names.contains edge.source
      declared.map fun edge => (edge.source, target)
    else []

/-- No edge leads to the name from one of the given names. -/
def isReady (edges : List (String × String)) (waiting : List String) (name : String) : Bool :=
  edges.all fun edge => edge.2 != name || !waiting.contains edge.1

/-- The ready name with the least rank. -/
def next? (edges : List (String × String)) (rank : String → Nat) (waiting : List String) :
    Option String :=
  (waiting.filter (isReady edges waiting)).foldl
    (fun best name =>
      match best with
      | none => some name
      | some other => if rank name < rank other then some name else best)
    none

/-- The order of the waiting names, taken one by one as they become ready; `none` when at some point
names are waiting and none is ready. The fuel is their count. -/
def orderFrom? (edges : List (String × String)) (rank : String → Nat) (waiting : List String) :
    Nat → Option (List String)
  | 0 => if waiting.isEmpty then some [] else none
  | fuel + 1 =>
    if waiting.isEmpty then some []
    else
      match next? edges rank waiting with
      | none => none
      | some name =>
        (orderFrom? edges rank (waiting.filter (· != name)) fuel).map (name :: ·)

/-- The names of the nodes in the order of the plan. -/
def order (g : Graph) (index : ReverseIndex) : List String :=
  match orderFrom? (edges g index) g.lastPosition g.names g.names.length with
  | some names => names
  | none => g.nodes.map (·.name)

/-- The capabilities wired into a node: its inbound edges on other ports than the main one. -/
def capabilities (index : ReverseIndex) (name : String) : List InboundEdge :=
  (index.allInbound name).filter (·.port != Port.main.name)

/-- One line of a plan. -/
inductive Line where
  | title
  | node (number : Nat) (name : String) (category : Category) (disabled : Bool)
  | capability (source port : String)
  | output (target : String)
  | noModel
deriving DecidableEq, Repr

/-- The text of a line. -/
def Line.text : Line → String
  | .title => "# Capability Plan"
  | .node number name category disabled =>
    paddedText 2 number ++ ". " ++ name ++ " [" ++ category.name ++ "]"
      ++ if disabled then " (disabled)" else ""
  | .capability source port => "    ◀── " ++ source ++ "  (" ++ port ++ ")"
  | .output target => "    └─▶ " ++ target ++ "  (main)"
  | .noModel => "    !   no language model"

/-- The lines of a name: its last node, what is wired into it, its main outputs, and whether it is
an agent without a model. -/
def block (g : Graph) (index : ReverseIndex) (number : Nat) (name : String) : List Line :=
  match g.lastNode? name with
  | none => []
  | some node =>
    let category := NodeType.classify node.type
    let lacksModel := category = .agent ∧ index.countInbound name .languageModel = 0
    .node number name category node.disabled
      :: (capabilities index name).map (fun edge => .capability edge.source edge.port)
      ++ (g.mainTargets name).map (fun target => .output target.node)
      ++ if lacksModel then [.noModel] else []

def lines (g : Graph) : List Line :=
  let index := ReverseIndex.build g
  .title
    :: (order g index).zipIdx.flatMap fun (name, position) => block g index (position + 1) name

end Plan

def Graph.plan (g : Graph) : String :=
  "\n".intercalate ((Plan.lines g).map (·.text))

end FlowLint
