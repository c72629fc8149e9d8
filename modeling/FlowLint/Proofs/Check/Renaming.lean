import FlowLint.Proofs.Check.Correspondence
import FlowLint.Proofs.Wiring.Table
import Mathlib.Logic.Equiv.Basic

/-!
# Renaming nodes

A name is the text that is shown for a node, the key of its outputs in the connection table, and
what entries, the reverse index and the look-ups of the checks go by. All of these uses keep to
equality of names, so other names that are as different from each other do as well. The empty text
is the one exception: an entry that names it names no node.

* **`Graph.renamed`**: the graph with the names of the nodes, the sources of the table and the nodes
  of its entries renamed, wherever they stand in it.
* **`Graph.slots_renamed`**: the slots of a port are found under the new name of the source.
* **`ReverseIndex.build_renamed`**: from one added edge to the whole index, as the index is built.
* **`Check.renaming_equivariant`**: position by position the diagnostics are the same but for names.
-/

namespace FlowLint

/-! ## Graphs with other names -/

/-- The value with its items mapped, if it is a list. -/
def Value.mapItems (f : Value → Value) (value : Value) : Value :=
  (value.items?.map fun items => .list (items.map f)).getD value

/-- The mapping with its keys and its values mapped. -/
def Members.mapKeyed (key : Scalar → Scalar) (f : Value → Value) (members : Members) : Members :=
  members.map fun member => (key member.1, f member.2)

/-- The entry with another node, if it names one. Whatever else it states stays. -/
def renamedEntry (rename : String → String) (entry : Value) : Value :=
  match entryNode? entry with
  | some node => .map ((entry.members?.getD []).set (.text "node") (.text (rename node)))
  | none => entry

/-- The outputs of a source with other nodes in the entries of their slots. -/
def renamedOutputs (rename : String → String) (outputs : Value) : Value :=
  let renamedPort := Value.mapItems (Value.mapItems (renamedEntry rename))
  (outputs.members?.map fun ports => .map (ports.mapKeyed id renamedPort)).getD outputs

/-- The key with another text, if it is a text. -/
def Scalar.renamed (rename : String → String) : Scalar → Scalar
  | .text name => .text (rename name)
  | key => key

def Node.renamed (rename : String → String) (node : Node) : Node :=
  { node with name := rename node.name }

/-- The graph with other names of its nodes, in the node list and in the connection table. -/
def Graph.renamed (rename : String → String) (g : Graph) : Graph :=
  { g with
    nodes := g.nodes.map (Node.renamed rename)
    connections := g.connections.mapKeyed (Scalar.renamed rename) (renamedOutputs rename) }

def Target.renamed (rename : String → String) (target : Target) : Target :=
  { target with node := rename target.node }

def InboundEdge.renamed (rename : String → String) (edge : InboundEdge) : InboundEdge :=
  { edge with source := rename edge.source }

/-- The index with other names, of the targets and of the sources of their edges. -/
def ReverseIndex.renamed (rename : String → String) (index : ReverseIndex) : ReverseIndex :=
  ⟨index.entries.map fun entry => (rename entry.1, entry.2.map (InboundEdge.renamed rename))⟩

/-! ## Looking up -/

theorem Value.items?_mapItems (f : Value → Value) (value : Value) :
    (value.mapItems f).items? = value.items?.map (List.map f) := by
  unfold mapItems
  cases hitems : value.items? with
  | none => exact hitems
  | some items => rfl

/-- The value is found under the key that the old one becomes, if no other key becomes that. -/
theorem Members.get?_mapKeyed {key : Scalar → Scalar} {name name' : String}
    (hkey : ∀ k, key k = .text name' ↔ k = .text name) (f : Value → Value) (members : Members) :
    (members.mapKeyed key f).get? name' = (members.get? name).map f := by
  induction members with
  | nil => rfl
  | cons member rest ih =>
    obtain ⟨k, value⟩ := member
    rw [mapKeyed, List.map_cons, get?_cons, get?_cons, ← mapKeyed, ih]
    by_cases hsame : k = .text name
    · rw [if_pos hsame, if_pos ((hkey k).2 hsame), Option.map_some]
    · rw [if_neg hsame, if_neg (mt (hkey k).1 hsame)]

theorem Scalar.renamed_eq_text_iff {rename : String → String} (hinjective : rename.Injective)
    (key : Scalar) (name : String) :
    key.renamed rename = .text (rename name) ↔ key = .text name := by
  cases key with
  | text other => simp [renamed, hinjective.eq_iff]
  | _ => simp [renamed]

section

variable {rename : String → String}

/-! ## From entries to targets -/

theorem entryNode?_renamedEntry (hempty : ∀ name, rename name = "" ↔ name = "") (entry : Value) :
    entryNode? (renamedEntry rename entry) = (entryNode? entry).map rename := by
  unfold renamedEntry
  cases hnode : entryNode? entry with
  | none => exact hnode
  | some node =>
    -- a node that is named has a name, and so it has after the renaming
    have hname : rename node ≠ "" := mt (hempty node).1 (entryNode?_ne_empty hnode)
    simp [entryNode?, Members.get?_set, hname]

theorem entryIndex_renamedEntry (entry : Value) :
    entryIndex (renamedEntry rename entry) = entryIndex entry := by
  unfold renamedEntry
  cases hnode : entryNode? entry with
  | none => rfl
  | some node => simp [entryIndex, Members.get?_set]

theorem ofValue?_renamedEntry (hempty : ∀ name, rename name = "" ↔ name = "") (entry : Value) :
    Target.ofValue? (renamedEntry rename entry)
      = (Target.ofValue? entry).map (Target.renamed rename) := by
  rw [ofValue?_eq_map, ofValue?_eq_map, entryNode?_renamedEntry hempty, entryIndex_renamedEntry,
    Option.map_map, Option.map_map]
  rfl

theorem portSlots_renamed (hempty : ∀ name, rename name = "" ↔ name = "") (slots : List Value) :
    portSlots (slots.map (Value.mapItems (renamedEntry rename)))
      = (portSlots slots).map fun slot => (slot.1, slot.2.map (Target.renamed rename)) := by
  have htargets : ∀ entries, slotTargets (entries.map (renamedEntry rename))
      = (slotTargets entries).map (Target.renamed rename) := by
    intro entries
    rw [slotTargets, slotTargets, List.filterMap_map, List.map_filterMap]
    exact congrArg (List.filterMap · entries) (funext (ofValue?_renamedEntry hempty))
  rw [portSlots, portSlots, List.zipIdx_map, List.filterMap_map, List.map_filterMap]
  refine List.filterMap_congr fun entry _ => ?_
  obtain ⟨slot, position⟩ := entry
  simp only [Function.comp_apply, Prod.map_apply, id_eq, Value.items?_mapItems]
  cases slot.items? with
  | none => rfl
  | some entries => simp only [Option.map_some, htargets]

namespace Graph

variable (hinjective : rename.Injective)

include hinjective

theorem outputs_renamed (g : Graph) (source : String) :
    (g.renamed rename).outputs (rename source)
      = (g.outputs source).mapKeyed id (Value.mapItems (Value.mapItems (renamedEntry rename))) := by
  have hget : (g.renamed rename).connections.get? (rename source)
      = (g.connections.get? source).map (renamedOutputs rename) :=
    Members.get?_mapKeyed (fun key => Scalar.renamed_eq_text_iff hinjective key source) _ _
  rw [outputs, outputs, hget]
  cases g.connections.get? source with
  | none => rfl
  | some outputs =>
    rw [Option.map_some, Option.bind_some, Option.bind_some, renamedOutputs]
    cases hmembers : outputs.members? with
    | none => simp [hmembers, Members.mapKeyed]
    | some ports => rfl

theorem portsOf_renamed (g : Graph) (source : String) :
    (g.renamed rename).portsOf (rename source) = g.portsOf source := by
  rw [portsOf, portsOf, outputs_renamed hinjective, Members.mapKeyed, List.map_map]
  rfl

variable (hempty : ∀ name, rename name = "" ↔ name = "")

include hempty

/-- **The slots of a port** are found under the new name of the source, with the targets renamed. -/
theorem slots_renamed (g : Graph) (source port : String) :
    (g.renamed rename).slots (rename source) port
      = (g.slots source port).map fun slot => (slot.1, slot.2.map (Target.renamed rename)) := by
  have hport : ∀ f, ((g.outputs source).mapKeyed id f).get? port
      = ((g.outputs source).get? port).map f :=
    fun f => Members.get?_mapKeyed (fun _ => Iff.rfl) f _
  rw [slots, slots, outputs_renamed hinjective, hport, ← portSlots_renamed hempty]
  cases (g.outputs source).get? port with
  | none => rfl
  | some slots =>
    rw [Option.map_some, Option.bind_some, Option.bind_some, Value.items?_mapItems]
    cases slots.items? <;> rfl

theorem mainTargets_renamed (g : Graph) (source : String) :
    (g.renamed rename).mainTargets (rename source)
      = (g.mainTargets source).map (Target.renamed rename) := by
  rw [mainTargets, outbound, slots_renamed hinjective hempty, List.flatMap_map, ← List.map_flatMap]
  rfl

end Graph

/-! ## The reverse index -/

namespace ReverseIndex

variable (hinjective : rename.Injective)

include hinjective

theorem allInbound_renamed (index : ReverseIndex) (target : String) :
    (index.renamed rename).allInbound (rename target)
      = (index.allInbound target).map (InboundEdge.renamed rename) := by
  obtain ⟨entries⟩ := index
  unfold renamed allInbound
  induction entries with
  | nil => rfl
  | cons entry rest ih =>
    obtain ⟨name, edges⟩ := entry
    rw [List.map_cons, List.lookup_cons, List.lookup_cons]
    by_cases hsame : target = name
    · simp [hsame]
    · have hother : rename target ≠ rename name := hinjective.ne hsame
      simpa only [beq_eq_false_iff_ne.2 hsame, beq_eq_false_iff_ne.2 hother] using ih

theorem inbound_renamed (index : ReverseIndex) (target port : String) :
    (index.renamed rename).inbound (rename target) port
      = (index.inbound target port).map (InboundEdge.renamed rename) := by
  rw [inbound, inbound, allInbound_renamed hinjective, List.filter_map]
  rfl

/-- One added edge. -/
theorem add_renamed (index : ReverseIndex) (target : String) (edge : InboundEdge) :
    (index.renamed rename).add (rename target) (edge.renamed rename)
      = (index.add target edge).renamed rename := by
  obtain ⟨entries⟩ := index
  have hentries : addTo (rename target) (edge.renamed rename)
        (entries.map fun entry => (rename entry.1, entry.2.map (InboundEdge.renamed rename)))
      = (addTo target edge entries).map fun entry =>
          (rename entry.1, entry.2.map (InboundEdge.renamed rename)) := by
    induction entries with
    | nil => rfl
    | cons entry rest ih =>
      obtain ⟨name, edges⟩ := entry
      rw [List.map_cons, addTo, addTo, ih]
      by_cases hsame : name = target
      · rw [if_pos hsame, if_pos (congrArg rename hsame), List.map_cons, List.map_append]
        rfl
      · rw [if_neg hsame, if_neg (hinjective.ne hsame), List.map_cons]
  exact congrArg ReverseIndex.mk hentries

variable (hempty : ∀ name, rename name = "" ↔ name = "")

include hempty

/-- The edges of a port: in both loops each step adds the renamed edge. -/
theorem addPort_renamed (g : Graph) (source port : String) (index : ReverseIndex) :
    addPort (g.renamed rename) (rename source) port (index.renamed rename)
      = (addPort g source port index).renamed rename := by
  rw [addPort, addPort, Graph.slots_renamed hinjective hempty, List.foldl_map]
  refine List.foldl_hom _ fun index slot => ?_
  rw [List.foldl_map]
  exact List.foldl_hom _ fun index target =>
    add_renamed hinjective index target.node ⟨source, port, slot.1⟩

theorem addSource_renamed (g : Graph) (source : String) (index : ReverseIndex) :
    addSource (g.renamed rename) (rename source) (index.renamed rename)
      = (addSource g source index).renamed rename := by
  rw [addSource, addSource, Graph.portsOf_renamed hinjective]
  refine List.foldl_hom _ fun index port => ?_
  cases port with
  | text name => exact addPort_renamed hinjective hempty g source name index
  | _ => rfl

/-- **The index of the renamed graph** is the renamed index. -/
theorem build_renamed (g : Graph) : build (g.renamed rename) = (build g).renamed rename := by
  rw [build, build]
  show List.foldl _ (renamed rename empty) (g.connections.mapKeyed _ _) = _
  rw [Members.mapKeyed, List.foldl_map]
  refine List.foldl_hom _ fun index member => ?_
  obtain ⟨key, outputs⟩ := member
  cases key with
  | text source => exact addSource_renamed hinjective hempty g source index
  | _ => rfl

end ReverseIndex

/-! ## What the checks see -/

theorem replaces_renamed (node : Node) : node.Replaces rename id (node.renamed rename) :=
  ⟨rfl, rfl, rfl, rfl⟩

theorem Graph.renamed_mirrors (hinjective : rename.Injective)
    (hempty : ∀ name, rename name = "" ↔ name = "") (g : Graph) :
    g.Mirrors rename id (g.renamed rename) where
  named_rel := node?_rel hinjective (fun _ _ hnodes => hnodes.name_eq)
    (Outcome.forall₂_map replaces_renamed g.nodes)
  sources_perm name port := by
    rw [ReverseIndex.build_renamed hinjective hempty, ReverseIndex.inbound_renamed hinjective,
      List.map_map]
    exact .refl _
  targets_perm name := by
    rw [mainTargets_renamed hinjective hempty, List.map_map]
    exact .refl _

/-- A diagnostic and the one in its place after nodes are renamed. -/
structure Diagnostic.Renamed (rename : String → String) (d d' : Diagnostic) : Prop where
  severity_eq : d'.severity = d.severity
  code_eq : d'.code = d.code
  nodeId_eq : d'.nodeId = d.nodeId
  nodeName_eq : d'.nodeName = rename d.nodeName

theorem Diagnostic.renamed_retarget (respell : String → String) (d : Diagnostic) :
    d.Renamed rename (d.retarget rename respell) where
  severity_eq := d.severity_retarget rename respell
  code_eq := d.code_retarget rename respell
  nodeId_eq := rfl
  nodeName_eq := rfl

end

namespace Check

/-- **Names are as good as any others.** Under a renaming that keeps names apart, and keeps the
empty text for itself, the node at a position gives the same severities, codes and ids in the same
order, with its new name, or the same fault. -/
theorem renaming_equivariant (g : Graph) (settings : Settings) {rename : String → String}
    (hinjective : rename.Injective) (hempty : ∀ name, rename name = "" ↔ name = "")
    {position : Nat} {n : Node} (hn : g.nodes[position]? = some n) :
    (g.renamed rename).nodes[position]? = some (n.renamed rename)
    ∧ Outcome.Related (List.Forall₂ (Diagnostic.Renamed rename)) (node (.of g settings) n)
        (node (.of (g.renamed rename) settings) (n.renamed rename)) := by
  constructor
  · rw [Graph.renamed, List.getElem?_map, hn]
    rfl
  · have hfirst : ((g.renamed rename).mainTargets (rename n.name)).head?.map (·.node)
        = (g.mainTargets n.name).head?.map fun target => rename target.node := by
      rw [Graph.mainTargets_renamed hinjective hempty, List.head?_map, Option.map_map]
      rfl
    have hmatches : Matches rename id (.of g settings) (.of (g.renamed rename) settings) n
        (n.renamed rename) :=
      (Graph.renamed_mirrors hinjective hempty g).matches_of_replaces settings (replaces_renamed n)
        ⟨rfl, rfl, rfl, rfl⟩ fun _ => hfirst
    rw [hmatches.node_eq]
    exact Outcome.related_map (Outcome.forall₂_map (Diagnostic.renamed_retarget id)) _

/-- A chat that streams to an agent with main outputs, beside entries that name no node. Two nodes
have the name of the agent. -/
def crossedNames : Graph where
  name := none
  nodes := [chat, agent, agent]
  connections :=
    [(.text "chat", .map [(.text "main", .list [.null, .list [entry "", entry "agent"]])]),
      (.text "agent", .map [(.text "main", .list [.list [entry "chat"]])]),
      (.int 1, .map [(.text "ai_languageModel", .list [.list [entry "agent"]])])]
  extra := []
where
  chat : Node :=
    ⟨some "c", "chat", NodeType.chatTriggerType, .int 1,
      [(.text "responseMode", .text "streaming")], [], false, []⟩
  agent : Node := ⟨some "a", "agent", NodeType.agentType, .int 1, [], [], false, []⟩
  entry (node : String) : Value := .map [(.text "index", .int 0), (.text "node", .text node)]

/-- The agent and the chat exchange their names. -/
def exchange : String → String :=
  Equiv.swap "agent" "chat"

/-- The chat gives what it gave, by the name of the agent, and shows the agent by its own old name.
-/
theorem renaming_equivariant_crossedNames :
    exchange.Injective ∧ (∀ name, exchange name = "" ↔ name = "")
    ∧ (crossedNames.renamed exchange).nodes[0]? = some (crossedNames.chat.renamed exchange)
    ∧ Outcome.Related (List.Forall₂ (Diagnostic.Renamed exchange))
        (node (.of crossedNames {}) crossedNames.chat)
        (node (.of (crossedNames.renamed exchange) {}) (crossedNames.chat.renamed exchange))
    ∧ node (.of crossedNames {}) crossedNames.chat
      = .ok [⟨.error (.streamingAgentHasOutput "agent"), "Chat Trigger", some "c", "chat"⟩]
    ∧ node (.of (crossedNames.renamed exchange) {}) (crossedNames.chat.renamed exchange)
      = .ok [⟨.error (.streamingAgentHasOutput "chat"), "Chat Trigger", some "c", "agent"⟩] := by
  have hinjective : exchange.Injective := (Equiv.swap "agent" "chat").injective
  have hempty : ∀ name, exchange name = "" ↔ name = "" := by
    intro name
    have hkept : Equiv.swap "agent" "chat" "" = "" :=
      Equiv.swap_apply_of_ne_of_ne (by decide) (by decide)
    rw [exchange, ← Equiv.eq_symm_apply, Equiv.symm_swap, hkept]
  obtain ⟨hnode, hrelated⟩ := renaming_equivariant crossedNames {} hinjective hempty
    (show crossedNames.nodes[0]? = some crossedNames.chat from rfl)
  exact ⟨hinjective, hempty, hnode, hrelated, rfl, rfl⟩

end Check

end FlowLint
