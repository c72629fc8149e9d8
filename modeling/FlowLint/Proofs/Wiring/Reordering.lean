import FlowLint.Proofs.Check.Correspondence
import FlowLint.Proofs.Wiring.Transpose
import Mathlib.Data.List.Perm.Basic

/-!
# Orders that do not matter

A workflow is written in some order: its nodes, the sources of its connection table, their ports,
the slots of a port and the entries of a slot. Another order moves the edges in the reverse index,
changes the positions of slots, and changes which trigger is tried first when an agent looks for the
one that streams to it. The checks count edges and ask whether one is there, and so they find the
same. Only the first main target of a chat trigger depends on the order, on that in the trigger's
own main port.

* **`Reordered`**: a list with its items in some order, up to a relation between them, which says in
  turn what may be in another order inside of an item.
* **`Members.Reordered.get?_rel`**: in mappings the same is found under a text.
* **`Graph.Rewired.wires_perm`**: the table has the same wires, but for their slots.
* **`Graph.Rewired.mirrors`**: which is all that the checks see.
* **`Check.order_irrelevant`**: the orders of a table, of its ports, and of the nodes.
-/

namespace FlowLint

/-! ## Lists -/

/-- The items of a list in some order, up to a relation. -/
def Reordered {α β : Type} (R : α → β → Prop) (left : List α) (right : List β) : Prop :=
  ∃ sorted, left.Perm sorted ∧ List.Forall₂ R sorted right

namespace Reordered

variable {α β γ : Type} {R : α → β → Prop} {left : List α} {right : List β}

theorem refl {R : α → α → Prop} (hR : ∀ item, R item item) (items : List α) :
    Reordered R items items :=
  ⟨items, .refl _, List.forall₂_same.2 fun item _ => hR item⟩

theorem mono {S : α → β → Prop} (hS : ∀ item other, R item other → S item other)
    (h : Reordered R left right) : Reordered S left right := by
  obtain ⟨sorted, hperm, hrelated⟩ := h
  exact ⟨sorted, hperm, hrelated.imp hS⟩

theorem exists_of_mem_right (h : Reordered R left right) {other : β} (hother : other ∈ right) :
    ∃ item ∈ left, R item other := by
  obtain ⟨sorted, hperm, hrelated⟩ := h
  obtain ⟨item, hitem, hR⟩ := Outcome.exists_of_mem_right hrelated hother
  exact ⟨item, hperm.mem_iff.2 hitem, hR⟩

/-- What is made item by item is the same in some order, if it is so for related items. -/
theorem flatMap_perm {f : α → List γ} {f' : β → List γ}
    (hf : ∀ item other, R item other → (f item).Perm (f' other)) (h : Reordered R left right) :
    (left.flatMap f).Perm (right.flatMap f') := by
  obtain ⟨sorted, hperm, hrelated⟩ := h
  refine (hperm.flatMap_right f).trans ?_
  clear hperm
  induction hrelated with
  | nil => exact .refl _
  | cons hfirst _ ih => exact (hf _ _ hfirst).append ih

theorem map_perm {f : α → γ} {f' : β → γ} (hf : ∀ item other, R item other → f item = f' other)
    (h : Reordered R left right) : (left.map f).Perm (right.map f') := by
  rw [List.map_eq_flatMap, List.map_eq_flatMap]
  exact h.flatMap_perm fun item other hR => by rw [hf item other hR]

end Reordered

/-! ## Mappings -/

/-- A mapping with its members in some order, and with related values. -/
def Members.Reordered (R : Value → Value → Prop) : Members → Members → Prop :=
  FlowLint.Reordered fun member member' => member.1 = member'.1 ∧ R member.2 member'.2

namespace Members.Reordered

variable {R : Value → Value → Prop} {members members' : Members}

theorem mono {S : Value → Value → Prop} (hS : ∀ value value', R value value' → S value value')
    (h : Reordered R members members') : Reordered S members members' :=
  FlowLint.Reordered.mono (fun _ _ => And.imp_right (hS _ _)) h

theorem distinct (h : Reordered R members members') (hdistinct : members.Distinct) :
    members'.Distinct := by
  have hkeys : (members.map (·.1)).Perm (members'.map (·.1)) :=
    FlowLint.Reordered.map_perm (fun _ _ hmember => hmember.1) h
  have hsymm : ∀ {key other : Scalar}, key.sameKey other = false → other.sameKey key = false :=
    fun {key other} hkey => (other.sameKey_comm key).trans hkey
  have hpairs : (members.map (·.1)).Pairwise fun key other => key.sameKey other = false :=
    List.pairwise_map.2 hdistinct
  exact List.pairwise_map.1 ((hkeys.pairwise_iff hsymm).1 hpairs)

/-- Under a text the related value is found: no other member can come first. -/
theorem get?_rel (h : Reordered R members members') (hdistinct : members.Distinct) (name : String) :
    Option.Rel R (members.get? name) (members'.get? name) := by
  obtain ⟨sorted, hperm, hrelated⟩ := h
  have hsorted : Members.Distinct sorted :=
    have hreordered : Reordered Eq members sorted :=
      ⟨sorted, hperm, List.forall₂_same.2 fun _ _ => ⟨rfl, rfl⟩⟩
    hreordered.distinct hdistinct
  have hsame : Members.get? sorted name = members.get? name := by
    refine Option.ext fun value => ?_
    rw [← mem_texts_iff hsorted, ← mem_texts_iff hdistinct]
    exact (hperm.filterMap _).symm.mem_iff
  rw [← hsame]
  clear hperm hsorted hsame
  induction hrelated with
  | nil => exact .none
  | @cons member member' _ _ hfirst _ ih =>
    obtain ⟨key, value⟩ := member
    obtain ⟨key', value'⟩ := member'
    obtain ⟨rfl, hvalue⟩ := hfirst
    rw [get?_cons, get?_cons]
    split
    · exact .some hvalue
    · exact ih

/-- What is made of the members under texts is the same in some order. -/
theorem flatMap_texts_perm {γ : Type} {f : String → Value → List γ}
    (hf : ∀ name value value', R value value' → (f name value).Perm (f name value'))
    (h : Reordered R members members') :
    (members.texts.flatMap fun member => f member.1 member.2).Perm
      (members'.texts.flatMap fun member => f member.1 member.2) := by
  rw [texts, texts, List.filterMap_eq_flatMap_toList, List.filterMap_eq_flatMap_toList,
    List.flatMap_assoc, List.flatMap_assoc]
  refine FlowLint.Reordered.flatMap_perm (fun member member' hmember => ?_) h
  obtain ⟨key, value⟩ := member
  obtain ⟨key', value'⟩ := member'
  obtain ⟨rfl, hvalue⟩ := hmember
  cases key with
  | text name => simpa using hf name value value' hvalue
  | _ => exact .refl _

end Members.Reordered

/-! ## Tables -/

/-- A port with its slots in some order, and the entries of each slot in some order. What is no list
has no slots or entries. -/
def SlotsReordered (slots slots' : Value) : Prop :=
  Reordered (fun slot slot' => (slot.items?.getD []).Perm (slot'.items?.getD []))
    (slots.items?.getD []) (slots'.items?.getD [])

/-- The outputs of a source with their ports in some order, and with related slots. What is no
mapping has no ports. -/
def PortsReordered (R : Value → Value → Prop) (outputs outputs' : Value) : Prop :=
  (outputs.members?.getD []).Reordered R (outputs'.members?.getD [])

/-- The graph with the sources of its table in some order, and their ports in some order, and with
related slots under the ports. -/
structure Graph.Rewired (R : Value → Value → Prop) (g g' : Graph) : Prop where
  nodes_eq : g'.nodes = g.nodes
  table_reordered : g.connections.Reordered (PortsReordered R) g'.connections

theorem SlotsReordered.refl (slots : Value) : SlotsReordered slots slots :=
  Reordered.refl (fun slot => .refl (slot.items?.getD [])) _

/-! ## Wires -/

/-- Where a wire leads and where it comes from, without its slot. -/
def Wire.ends (wire : Wire) : String × String × String :=
  (wire.target, wire.source, wire.port)

theorem ends_portWires (source port : String) (slots : Value) :
    (portWires source port slots).map Wire.ends
      = (slots.items?.getD []).flatMap fun slot =>
          ((slot.items?.getD []).filterMap entryNode?).map fun target =>
            (target, source, port) := by
  have hslot : ∀ slot position, (slotWires source port slot position).map Wire.ends
      = ((slot.items?.getD []).filterMap entryNode?).map fun target => (target, source, port) := by
    intro slot position
    rw [slotWires, List.map_map]
    rfl
  -- the positions are not looked at any more
  rw [portWires, List.map_flatMap]
  simp only [hslot]
  rw [← List.flatMap_map Prod.fst fun slot : Value =>
    ((slot.items?.getD []).filterMap entryNode?).map fun target => (target, source, port),
    List.zipIdx_map_fst]

namespace Graph.Rewired

variable {R : Value → Value → Prop} {g g' : Graph}

theorem mono {S : Value → Value → Prop} (hS : ∀ slots slots', R slots slots' → S slots slots')
    (h : g.Rewired R g') : g.Rewired S g' :=
  ⟨h.nodes_eq, h.table_reordered.mono fun _ _ houtputs => houtputs.mono hS⟩

theorem tableDistinct (h : g.Rewired R g') (hdistinct : g.TableDistinct) : g'.TableDistinct where
  sources := h.table_reordered.distinct hdistinct.sources
  ports := by
    intro member' hmember'
    obtain ⟨member, hmember, -, hports⟩ := h.table_reordered.exists_of_mem_right hmember'
    exact Members.Reordered.distinct hports (hdistinct.ports member hmember)

/-- Under a source and a port the related slots are found. -/
theorem slots_rel (h : g.Rewired R g') (hdistinct : g.TableDistinct) (source port : String) :
    Option.Rel R ((g.outputs source).get? port) ((g'.outputs source).get? port) := by
  have hget := h.table_reordered.get?_rel hdistinct.sources source
  have hports := distinct_outputs hdistinct source
  unfold Graph.outputs at hports ⊢
  generalize g.connections.get? source = outputs at hget hports ⊢
  generalize g'.connections.get? source = outputs' at hget ⊢
  cases hget with
  | none => exact .none
  | some houtputs => exact Members.Reordered.get?_rel houtputs hports port

/-- **The wires of the table** are the same in some order, but for their slots. -/
theorem wires_perm (h : g.Rewired SlotsReordered g') :
    (g.wires.map Wire.ends).Perm (g'.wires.map Wire.ends) := by
  have hport : ∀ source port slots slots', SlotsReordered slots slots' →
      ((portWires source port slots).map Wire.ends).Perm
        ((portWires source port slots').map Wire.ends) := by
    intro source port slots slots' hslots
    rw [ends_portWires, ends_portWires]
    exact hslots.flatMap_perm fun slot slot' hentries => (hentries.filterMap _).map _
  have hsource : ∀ source outputs outputs', PortsReordered SlotsReordered outputs outputs' →
      ((sourceWires source outputs).map Wire.ends).Perm
        ((sourceWires source outputs').map Wire.ends) := by
    intro source outputs outputs' houtputs
    rw [sourceWires, sourceWires, List.map_flatMap, List.map_flatMap]
    exact Members.Reordered.flatMap_texts_perm (hport source) houtputs
  rw [wires, wires, List.map_flatMap, List.map_flatMap]
  exact h.table_reordered.flatMap_texts_perm hsource

end Graph.Rewired

/-! ## What the checks see -/

namespace Graph

variable {g g' : Graph}

theorem Rewired.mirrors (h : g.Rewired SlotsReordered g') (hdistinct : g.TableDistinct) :
    g.Mirrors id id g' := by
  -- what leads into a name and out of it is read off the wires without their slots
  have hread : ∀ (p : String × String × String → Bool) (f : String × String × String → String),
      ((g'.wires.filter (p ∘ Wire.ends)).map (f ∘ Wire.ends)).Perm
        ((g.wires.filter (p ∘ Wire.ends)).map (f ∘ Wire.ends)) := by
    intro p f
    rw [← List.map_map, ← List.map_map, ← List.filter_map, ← List.filter_map]
    exact (h.wires_perm.symm.filter p).map f
  have hdistinct' := h.tableDistinct hdistinct
  constructor
  case named_rel =>
    refine node?_rel Function.injective_id (fun _ _ hnodes => hnodes.name_eq) ?_
    rw [h.nodes_eq]
    exact List.forall₂_same.2 fun node _ => replaces_self node
  case sources_perm =>
    intro name port
    rw [id_eq, ReverseIndex.inbound_build hdistinct', ReverseIndex.inbound_build hdistinct,
      List.map_map, List.map_map]
    exact hread (fun ends => ends.2.2 == port && ends.1 == name) fun ends => ends.2.1
  case targets_perm =>
    intro name
    show ((g'.outbound name Port.main.name).map (·.node)).Perm
      ((g.outbound name Port.main.name).map (·.node))
    rw [map_node_outbound hdistinct', map_node_outbound hdistinct]
    exact hread (fun ends => ends.2.2 == Port.main.name && ends.2.1 == name) fun ends => ends.1

/-- When names are distinct, a name leads to the same node in every order of the nodes. -/
theorem mirrors_of_nodes_perm (hnames : g.NamesDistinct) {nodes' : List Node}
    (h : nodes'.Perm g.nodes) : g.Mirrors id id { g with nodes := nodes' } where
  named_rel name := by
    have hnames' : Graph.NamesDistinct { g with nodes := nodes' } :=
      (h.map Node.name).nodup_iff.2 hnames
    have hsame : Graph.node? { g with nodes := nodes' } name = g.node? name := by
      refine Option.ext fun node => ?_
      rw [node?_eq_some_iff hnames', node?_eq_some_iff hnames]
      exact and_congr_left fun _ => h.mem_iff
    rw [id_eq, hsame]
    cases g.node? name with
    | none => exact .none
    | some node => exact .some (replaces_self node)
  sources_perm _ _ := .refl _
  targets_perm _ := .refl _

end Graph

/-! ## Runs -/

namespace Check

variable {g : Graph}

/-- A node other than a chat trigger gives the same under a rewired table, and so does a chat
trigger with its own main port as it was. -/
theorem node_eq_of_rewired {g' : Graph} (h : g.Rewired SlotsReordered g')
    (hdistinct : g.TableDistinct) (settings : Settings) {n : Node}
    (hmain : n.category = .chatTrigger →
      (g'.outputs n.name).get? Port.main.name = (g.outputs n.name).get? Port.main.name) :
    node (.of g' settings) n = node (.of g settings) n := by
  refine ((h.mirrors hdistinct).matches_of_replaces settings (replaces_self n) (.refl n)
    fun hcategory => ?_).node_eq_of_id
  show (g'.mainTargets n.name).head?.map (·.node) = (g.mainTargets n.name).head?.map (·.node)
  unfold Graph.mainTargets Graph.outbound Graph.slots
  rw [hmain hcategory]

/-- A run ends in the same way when sources and ports change places: every port is as it was. -/
theorem graph_eq_of_rewired {g' : Graph} (h : g.Rewired Eq g') (hdistinct : g.TableDistinct)
    (settings : Settings) : graph g' settings = graph g settings := by
  have hslots : g.Rewired SlotsReordered g' := h.mono fun slots slots' heq => by
    rw [← heq]
    exact .refl slots
  have hport : ∀ source port, (g'.outputs source).get? port = (g.outputs source).get? port := by
    intro source port
    have hsame := h.slots_rel hdistinct source port
    generalize (g.outputs source).get? port = slots at hsame ⊢
    generalize (g'.outputs source).get? port = slots' at hsame ⊢
    cases hsame with
    | none => rfl
    | some heq => rw [heq]
  have hnode : ∀ n, node (.of g' settings) n = node (.of g settings) n := fun n =>
    node_eq_of_rewired hslots hdistinct settings fun _ => hport n.name Port.main.name
  rw [graph, graph, h.nodes_eq, nodes_eq_walk, nodes_eq_walk, funext hnode]

theorem node_eq_of_nodes_perm (hnames : g.NamesDistinct) {nodes' : List Node}
    (h : nodes'.Perm g.nodes) (settings : Settings) (n : Node) :
    node (.of { g with nodes := nodes' } settings) n = node (.of g settings) n :=
  ((Graph.mirrors_of_nodes_perm hnames h).matches_of_replaces settings (replaces_self n) (.refl n)
    fun _ => rfl).node_eq_of_id

/-- A run that returns joins one block for each node, and it does so in every order of the nodes. -/
theorem graph_of_nodes_perm (hnames : g.NamesDistinct) {nodes' : List Node}
    (h : nodes'.Perm g.nodes) {settings : Settings} {ds : List Diagnostic}
    (hds : graph g settings = .ok ds) :
    ∃ block : Node → List Diagnostic,
      (∀ n ∈ g.nodes, node (.of g settings) n = .ok (block n))
      ∧ ds = g.nodes.flatMap block
      ∧ graph { g with nodes := nodes' } settings = .ok (nodes'.flatMap block) := by
  -- a node with a fault has no block, and there is none in a run that returns
  let block : Node → List Diagnostic := fun n => (node (.of g settings) n).toOption.getD []
  have hblock : ∀ n ∈ g.nodes, node (.of g settings) n = .ok (block n) := by
    intro n hn
    obtain ⟨found, hfound⟩ := (mem_of_nodes_eq_ok hds).1 n hn
    simp only [block, node_eq, hfound]
    rfl
  have hrun : graph g settings = .ok (g.nodes.flatMap block) := nodes_eq_ok_of_blocks hblock
  refine ⟨block, hblock, Except.ok.inj (hds.symm.trans hrun), nodes_eq_ok_of_blocks ?_⟩
  intro n hn
  rw [node_eq_of_nodes_perm hnames h]
  exact hblock n (h.mem_iff.1 hn)

/-- **The order in which a workflow is written does not matter.** With the sources of the table and
their ports in any order a run ends in the same way. With the slots of ports and the entries of
slots in any order too, a node gives the same unless it is a chat trigger with a changed main port.
And when names are distinct, with the nodes in any order each gives the same, and a run gives the
same blocks of diagnostics in that order. -/
theorem order_irrelevant (g : Graph) (hdistinct : g.TableDistinct) (settings : Settings) :
    (∀ g' : Graph, g.Rewired Eq g' → graph g' settings = graph g settings)
    ∧ (∀ g' : Graph, g.Rewired SlotsReordered g' → ∀ n ∈ g.nodes,
        (n.category = .chatTrigger →
          (g'.outputs n.name).get? Port.main.name = (g.outputs n.name).get? Port.main.name) →
        node (.of g' settings) n = node (.of g settings) n)
    ∧ (g.NamesDistinct → ∀ nodes' : List Node, nodes'.Perm g.nodes →
        (∀ n ∈ g.nodes,
          node (.of { g with nodes := nodes' } settings) n = node (.of g settings) n)
        ∧ ∀ ds, graph g settings = .ok ds → ∃ block : Node → List Diagnostic,
          (∀ n ∈ g.nodes, node (.of g settings) n = .ok (block n))
          ∧ ds = g.nodes.flatMap block
          ∧ graph { g with nodes := nodes' } settings = .ok (nodes'.flatMap block)) := by
  refine ⟨fun g' h => graph_eq_of_rewired h hdistinct settings,
    fun g' h n _ => node_eq_of_rewired h hdistinct settings, ?_⟩
  intro hnames nodes' hperm
  exact ⟨fun n _ => node_eq_of_nodes_perm hnames hperm settings n,
    fun ds hds => graph_of_nodes_perm hnames hperm hds⟩

/-- A chat that streams to an agent and to a sheet, and a model that feeds the agent twice. -/
def fannedOut (connections : Members) : Graph where
  name := none
  nodes := [chat, agent, sheet]
  connections := connections
  extra := []
where
  chat : Node :=
    ⟨none, "chat", NodeType.chatTriggerType, .int 1,
      [(.text "responseMode", .text "streaming")], [], false, []⟩
  agent : Node := ⟨none, "agent", NodeType.agentType, .int 1, [], [], false, []⟩
  sheet : Node := ⟨none, "sheet", "n8n-nodes-base.sheet", .int 1, [], [], false, []⟩

namespace fannedOut

def entry (node : String) : Value := .map [(.text "node", .text node)]

def mainPort (targets : List Value) : Scalar × Value := (.text "main", .list [.list targets])

def memoryPort : Scalar × Value := (.text "ai_memory", .list [.list [entry "agent"]])

def model (slots : List Value) : Scalar × Value :=
  (.text "model", .map [(.text "ai_languageModel", .list slots)])

def table : Members :=
  [(.text "chat", .map [mainPort [entry "agent", entry "sheet"], memoryPort]),
    model [.list [entry "agent"], .null, .list [entry "agent"]]]

/-- Sources and ports change places. -/
def turned : Members :=
  [model [.list [entry "agent"], .null, .list [entry "agent"]],
    (.text "chat", .map [memoryPort, mainPort [entry "agent", entry "sheet"]])]

/-- Slots and entries change places. -/
def shuffled : Members :=
  [(.text "chat", .map [mainPort [entry "sheet", entry "agent"], memoryPort]),
    model [.null, .list [entry "agent"], .list [entry "agent"]]]

/-- What a run gives, all of it about the agent. -/
def diagnostics : List Diagnostic :=
  [⟨.warning .fallbackNotEnabled, "AI Agent", none, "agent"⟩,
    ⟨.info .missingSystemMessage, "AI Agent", none, "agent"⟩,
    ⟨.info .noToolsConnected, "AI Agent", none, "agent"⟩]

theorem rewired_turned : (fannedOut table).Rewired Eq (fannedOut turned) := by
  refine ⟨rfl, _, .swap _ _ _, .cons ⟨rfl, ?_⟩ (.cons ⟨rfl, ?_⟩ .nil)⟩
  · exact Reordered.refl (fun _ => ⟨rfl, rfl⟩) _
  · exact ⟨_, .swap _ _ _, List.forall₂_same.2 fun _ _ => ⟨rfl, rfl⟩⟩

theorem rewired_shuffled : (fannedOut table).Rewired SlotsReordered (fannedOut shuffled) := by
  refine ⟨rfl, _, .refl _, .cons ⟨rfl, ?_⟩ (.cons ⟨rfl, ?_⟩ .nil)⟩
  · refine ⟨_, .refl _, .cons ⟨rfl, ?_⟩ (.cons ⟨rfl, .refl _⟩ .nil)⟩
    exact ⟨_, .refl _, .cons (.swap _ _ _) .nil⟩
  · refine ⟨_, .refl _, .cons ⟨rfl, ?_⟩ .nil⟩
    exact ⟨_, .swap _ _ _, List.forall₂_same.2 fun _ _ => .refl _⟩

end fannedOut

/-- The agent gives the same under all tables, and a run over the nodes from the last to the first
has the same blocks. The chat has a new first target when the entries of its main port change
places. -/
theorem order_irrelevant_fannedOut :
    (fannedOut fannedOut.table).TableDistinct ∧ (fannedOut fannedOut.table).NamesDistinct
    ∧ graph (fannedOut fannedOut.turned) {} = graph (fannedOut fannedOut.table) {}
    ∧ node (.of (fannedOut fannedOut.shuffled) {}) fannedOut.agent
      = node (.of (fannedOut fannedOut.table) {}) fannedOut.agent
    ∧ node (.of (fannedOut fannedOut.table) {}) fannedOut.chat = .ok []
    ∧ node (.of (fannedOut fannedOut.shuffled) {}) fannedOut.chat
      = .ok [⟨.error (.streamingWrongTarget "sheet" "n8n-nodes-base.sheet"), "Chat Trigger", none,
          "chat"⟩]
    ∧ graph (fannedOut fannedOut.table) {} = .ok fannedOut.diagnostics
    ∧ ∃ block : Node → List Diagnostic,
      fannedOut.diagnostics = [fannedOut.chat, fannedOut.agent, fannedOut.sheet].flatMap block
      ∧ graph { fannedOut fannedOut.table with
          nodes := [fannedOut.sheet, fannedOut.agent, fannedOut.chat] } {}
        = .ok ([fannedOut.sheet, fannedOut.agent, fannedOut.chat].flatMap block) := by
  have hdistinct : (fannedOut fannedOut.table).TableDistinct := ⟨by decide, by decide⟩
  have hnames : (fannedOut fannedOut.table).NamesDistinct := by
    unfold Graph.NamesDistinct
    decide
  obtain ⟨hturned, hshuffled, hnodes⟩ := order_irrelevant (fannedOut fannedOut.table) hdistinct {}
  have hagent : fannedOut.agent ∈ (fannedOut fannedOut.table).nodes := .tail _ (.head _)
  have hrun := hturned _ fannedOut.rewired_turned
  have hkept := hshuffled _ fannedOut.rewired_shuffled fannedOut.agent hagent fun h => nomatch h
  obtain ⟨block, -, hblocks, hreversed⟩ :=
    (hnodes hnames _ (List.reverse_perm _)).2 fannedOut.diagnostics rfl
  exact ⟨hdistinct, hnames, hrun, hkept, rfl, rfl, rfl, block, hblocks, hreversed⟩

end Check

end FlowLint
