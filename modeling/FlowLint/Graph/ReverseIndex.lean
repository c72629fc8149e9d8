import FlowLint.Graph.Basic

/-!
# What is wired into a node

The checks ask what leads into a node, while the connection table says what leads out of it. The
reverse index turns the table around: under each target it holds the edges that lead to it, in the
order of the table, and the targets stand in the order of their first edges.
-/

namespace FlowLint

/-- An edge as its target sees it: the source, the port, and the position of the slot. -/
structure InboundEdge where
  source : String
  port : String
  slot : Nat
deriving DecidableEq, Repr

/-- The inbound edges by target. -/
structure ReverseIndex where
  entries : List (String × List InboundEdge)
deriving DecidableEq, Repr

namespace ReverseIndex

def empty : ReverseIndex := ⟨[]⟩

/-- The entries with an edge added behind those of its target. -/
def addTo (target : String) (edge : InboundEdge) :
    List (String × List InboundEdge) → List (String × List InboundEdge)
  | [] => [(target, [edge])]
  | (name, edges) :: rest =>
    if name = target then (name, edges ++ [edge]) :: rest
    else (name, edges) :: addTo target edge rest

/-- Adds an edge behind those of its target; a new target goes to the end. -/
def add (index : ReverseIndex) (target : String) (edge : InboundEdge) : ReverseIndex :=
  ⟨addTo target edge index.entries⟩

def addPort (g : Graph) (source port : String) (index : ReverseIndex) : ReverseIndex :=
  (g.slots source port).foldl
    (fun index slot =>
      slot.2.foldl (fun index target => index.add target.node ⟨source, port, slot.1⟩) index)
    index

/-- Adds the edges of a source, port by port; ports that are not named by a text have none. -/
def addSource (g : Graph) (source : String) (index : ReverseIndex) : ReverseIndex :=
  (g.portsOf source).foldl
    (fun index port =>
      match port with
      | .text name => addPort g source name index
      | _ => index)
    index

/-- The reverse index of a graph; sources that are not named by a text have no edges. -/
def build (g : Graph) : ReverseIndex :=
  g.connections.foldl
    (fun index member =>
      match member.1 with
      | .text source => addSource g source index
      | _ => index)
    empty

def allInbound (index : ReverseIndex) (target : String) : List InboundEdge :=
  (index.entries.lookup target).getD []

def inbound (index : ReverseIndex) (target port : String) : List InboundEdge :=
  (index.allInbound target).filter (·.port == port)

def countInbound (index : ReverseIndex) (target : String) (port : Port) : Nat :=
  (index.inbound target port.name).length

/-! ### Views -/

theorem lookup_addTo (target name : String) (edge : InboundEdge)
    (entries : List (String × List InboundEdge)) :
    ((addTo target edge entries).lookup name).getD []
      = (entries.lookup name).getD [] ++ if name = target then [edge] else [] := by
  induction entries with
  | nil =>
    by_cases h : name = target
    · simp [addTo, h]
    · have hne : (name == target) = false := by simp [h]
      simp [addTo, List.lookup_cons, h, hne]
  | cons entry rest ih =>
    obtain ⟨key, edges⟩ := entry
    by_cases hk : key = target
    · subst hk
      by_cases h : name = key
      · simp [addTo, h]
      · have hne : (name == key) = false := by simp [h]
        simp [addTo, List.lookup_cons, h, hne]
    · by_cases h : name = key
      · subst h
        simp [addTo, hk]
      · have hne : (name == key) = false := by simp [h]
        simpa [addTo, hk, List.lookup_cons, hne] using ih

@[simp] theorem allInbound_empty (name : String) : empty.allInbound name = [] := rfl

/-- Adding an edge lengthens what its target sees by that edge, at the end, and nothing else. -/
theorem allInbound_add (index : ReverseIndex) (target name : String) (edge : InboundEdge) :
    (index.add target edge).allInbound name
      = index.allInbound name ++ if name = target then [edge] else [] :=
  lookup_addTo target name edge index.entries

end ReverseIndex

end FlowLint
