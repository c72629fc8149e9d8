import FlowLint.Graph.Basic
import FlowLint.Proofs.Value.Keys

/-!
# The wires of a connection table

The connection table read once, from its first member to its last, as a flat list of wires. A wire
is an entry of a slot that names a node: it has the node it leads to, the source and the port it
comes from, and the position of its slot. What is no mapping, no list or no text where one is
expected has no wires, and a slot that is no list still takes its position (`Graph.wires`).

The program never makes this list. It looks sources and ports up by name, and the list is what its
answers are measured against:

* **`Graph.TableDistinct`**: the table and the outputs of its sources hold no key twice, as mappings
  do. This is what makes looking up and reading through the same, and every loaded graph is such
  (`Workflow.tableDistinct_of_load`).
* **`Graph.wiresOfSlots_slots`**: the slots found under a source and a port hold the wires with that
  source and that port, in their order.
* **`Graph.map_node_outbound`**: so the targets of a port are those of its wires.
* **`Graph.node?_eq_some_iff`**: when no two nodes have one name, looking a name up finds the node
  that has it.
-/

namespace FlowLint

/-! ## Entries -/

/-- The node that an entry names: the text under `node`, unless it is empty. -/
def entryNode? (entry : Value) : Option String :=
  match (entry.members?.getD []).get? "node" with
  | some (.text name) => if name = "" then none else some name
  | _ => none

/-- The index that an entry states: an integer, and zero for anything else. -/
def entryIndex (entry : Value) : Int :=
  match (entry.members?.getD []).get? "index" with
  | some (.int n) => n
  | _ => 0

theorem entryNode?_ne_empty {entry : Value} {node : String} (h : entryNode? entry = some node) :
    node ≠ "" := by
  unfold entryNode? at h
  split at h
  · split at h
    · exact nomatch h
    · next hempty =>
      cases h
      exact hempty
  · exact nomatch h

/-- The target that an entry is, by the node and the index that it states. -/
theorem ofValue?_eq_map (entry : Value) :
    Target.ofValue? entry = (entryNode? entry).map fun node => ⟨node, entryIndex entry⟩ := by
  unfold Target.ofValue? entryNode? entryIndex
  cases entry.members? with
  | none => rfl
  | some members =>
    simp only [Option.getD_some, Option.bind_eq_bind, Option.bind_some]
    cases members.get? "node" with
    | none => rfl
    | some value =>
      cases value with
      | scalar s =>
        cases s with
        | text name =>
          by_cases hempty : name = ""
          · simp [hempty]
          · simp only [if_neg hempty]
            rfl
        | _ => rfl
      | _ => rfl

theorem map_node_ofValue? (entry : Value) :
    (Target.ofValue? entry).map (·.node) = entryNode? entry := by
  rw [ofValue?_eq_map, Option.map_map]
  exact Option.map_id'

/-! ## Wires -/

/-- An entry of the connection table that names a node. -/
structure Wire where
  target : String
  source : String
  port : String
  slot : Nat
deriving DecidableEq, Repr

/-- The wires of a slot. -/
def slotWires (source port : String) (entries : Value) (slot : Nat) : List Wire :=
  ((entries.items?.getD []).filterMap entryNode?).map fun target => ⟨target, source, port, slot⟩

/-- The wires of a port, slot by slot. -/
def portWires (source port : String) (slots : Value) : List Wire :=
  (slots.items?.getD []).zipIdx.flatMap fun entry => slotWires source port entry.1 entry.2

/-- The wires of a source, port by port. -/
def sourceWires (source : String) (outputs : Value) : List Wire :=
  (outputs.members?.getD []).texts.flatMap fun member => portWires source member.1 member.2

namespace Graph

/-- The wires of the connection table, source by source. -/
def wires (g : Graph) : List Wire :=
  g.connections.texts.flatMap fun member => sourceWires member.1 member.2

/-- How many wires lead to a node on a port. -/
def wireCount (g : Graph) (target : String) (port : Port) : Nat :=
  g.wires.countP fun wire => wire.port == port.name && wire.target == target

/-- The table and the outputs of each source hold no key twice. -/
structure TableDistinct (g : Graph) : Prop where
  sources : g.connections.Distinct
  ports : ∀ member ∈ g.connections, (member.2.members?.getD []).Distinct

end Graph

/-! ## Wires and slots

The program reads a port as a list of slots with targets. The same wires stand in it, slot by slot,
when every target is written as a wire. -/

/-- The wires that slots with targets stand for. -/
def wiresOfSlots (source port : String) (slots : List (Nat × List Target)) : List Wire :=
  slots.flatMap fun slot => slot.2.map fun target => ⟨target.node, source, port, slot.1⟩

theorem map_node_slotTargets (entries : List Value) :
    (slotTargets entries).map (·.node) = entries.filterMap entryNode? := by
  rw [slotTargets, List.map_filterMap]
  exact congrArg (List.filterMap · entries) (funext map_node_ofValue?)

theorem wiresOfSlots_portSlots (source port : String) (slots : List Value) :
    wiresOfSlots source port (portSlots slots)
      = slots.zipIdx.flatMap fun entry => slotWires source port entry.1 entry.2 := by
  rw [wiresOfSlots, portSlots]
  induction slots.zipIdx with
  | nil => rfl
  | cons entry rest ih =>
    obtain ⟨slot, position⟩ := entry
    rw [List.filterMap_cons, List.flatMap_cons, ← ih]
    cases hi : slot.items? with
    | none => simp [slotWires, hi]
    | some entries =>
      have hslot : slotWires source port slot position
          = (slotTargets entries).map fun target => ⟨target.node, source, port, position⟩ := by
        rw [slotWires, hi, Option.getD_some, ← map_node_slotTargets, List.map_map]
        rfl
      simp only [hi, Option.map_some, List.flatMap_cons, hslot]

theorem portWires_eq_wiresOfSlots (source port : String) (slots : Value) :
    portWires source port slots
      = wiresOfSlots source port (portSlots (slots.items?.getD [])) :=
  (wiresOfSlots_portSlots source port _).symm

theorem target_wiresOfSlots (source port : String) (slots : List (Nat × List Target)) :
    (wiresOfSlots source port slots).map (·.target) = (slots.flatMap (·.2)).map (·.node) := by
  simp only [wiresOfSlots, List.map_flatMap, List.map_map, Function.comp_def]

theorem port_of_mem_portWires {source port : String} {slots : Value} {wire : Wire}
    (h : wire ∈ portWires source port slots) : wire.source = source ∧ wire.port = port := by
  rw [portWires, List.mem_flatMap] at h
  obtain ⟨entry, -, hwire⟩ := h
  rw [slotWires, List.mem_map] at hwire
  obtain ⟨target, -, rfl⟩ := hwire
  exact ⟨rfl, rfl⟩

theorem source_of_mem_sourceWires {source : String} {outputs : Value} {wire : Wire}
    (h : wire ∈ sourceWires source outputs) : wire.source = source := by
  rw [sourceWires, List.mem_flatMap] at h
  obtain ⟨member, -, hwire⟩ := h
  exact (port_of_mem_portWires hwire).1

/-! ## Looking up and reading through -/

namespace Graph

theorem mem_connections_of_get? {g : Graph} {source : String} {outputs : Value}
    (h : g.connections.get? source = some outputs) : (.text source, outputs) ∈ g.connections := by
  rw [Members.get?, Option.map_eq_some_iff] at h
  obtain ⟨⟨key, value⟩, hfind, rfl⟩ := h
  have hkey : key = .text source := by simpa using List.find?_some hfind
  exact hkey ▸ List.mem_of_find?_eq_some hfind

theorem outputs_eq_of_get? {g : Graph} {source : String} {outputs : Value}
    (h : g.connections.get? source = some outputs) :
    g.outputs source = outputs.members?.getD [] := by
  rw [Graph.outputs, h, Option.bind_some]

theorem distinct_outputs {g : Graph} (h : g.TableDistinct) (source : String) :
    (g.outputs source).Distinct := by
  cases hget : g.connections.get? source with
  | none =>
    rw [Graph.outputs, hget]
    exact .nil
  | some outputs =>
    rw [outputs_eq_of_get? hget]
    exact h.ports _ (mem_connections_of_get? hget)

theorem slots_eq_of_get? {g : Graph} {source port : String} {slots : Value}
    (h : (g.outputs source).get? port = some slots) :
    g.slots source port = portSlots (slots.items?.getD []) := by
  rw [Graph.slots, h, Option.bind_some]

/-- **The slots of a port hold its wires.** What is found under a source and a port are the wires of
the table with that source and that port, in the order of the table. -/
theorem wiresOfSlots_slots {g : Graph} (h : g.TableDistinct) (source port : String) :
    wiresOfSlots source port (g.slots source port)
      = g.wires.filter fun wire => wire.port == port && wire.source == source := by
  -- first the wires of the source, then among them those of the port
  rw [← List.filter_filter, wires,
    Members.filter_flatMap_texts h.sources sourceWires Wire.source
      (fun _ _ _ => source_of_mem_sourceWires) source]
  cases hs : g.connections.get? source with
  | none =>
    have hout : g.outputs source = [] := by rw [Graph.outputs, hs]; rfl
    rw [Graph.slots, hout]
    rfl
  | some outputs =>
    have hports : (outputs.members?.getD []).Distinct :=
      h.ports (.text source, outputs) (mem_connections_of_get? hs)
    rw [Option.map_some, Option.getD_some, sourceWires,
      Members.filter_flatMap_texts hports (portWires source) Wire.port
        (fun _ _ _ hw => (port_of_mem_portWires hw).2) port, ← outputs_eq_of_get? hs]
    cases hp : (g.outputs source).get? port with
    | none => rw [Graph.slots, hp]; rfl
    | some slots =>
      rw [slots_eq_of_get? hp, Option.map_some, Option.getD_some, portWires_eq_wiresOfSlots]

/-- **The targets of a port are those of its wires.** -/
theorem map_node_outbound {g : Graph} (h : g.TableDistinct) (source port : String) :
    (g.outbound source port).map (·.node)
      = (g.wires.filter fun wire => wire.port == port && wire.source == source).map (·.target) := by
  rw [← wiresOfSlots_slots h, target_wiresOfSlots]
  rfl

/-! ## Nodes by name -/

/-- No two nodes have one name. -/
def NamesDistinct (g : Graph) : Prop :=
  (g.nodes.map (·.name)).Nodup

/-- The node that is found under a name is the one that has it. -/
theorem node?_eq_some_iff {g : Graph} (h : g.NamesDistinct) (name : String) (node : Node) :
    g.node? name = some node ↔ node ∈ g.nodes ∧ node.name = name := by
  unfold NamesDistinct at h
  unfold Graph.node?
  generalize g.nodes = nodes at h ⊢
  induction nodes with
  | nil => simp
  | cons first rest ih =>
    rw [List.map_cons, List.nodup_cons] at h
    rw [List.find?_cons]
    by_cases hname : first.name = name
    -- the first node has the name, and so no other has it
    · have hother : ∀ other ∈ rest, other.name ≠ name := fun other hother hsame =>
        h.1 (List.mem_map.2 ⟨other, hother, hsame.trans hname.symm⟩)
      simp only [hname, beq_self_eq_true, Option.some.injEq, List.mem_cons]
      constructor
      · rintro rfl
        exact ⟨.inl rfl, hname⟩
      · rintro ⟨rfl | hmem, hnode⟩
        · rfl
        · exact absurd hnode (hother node hmem)
    · have hbeq : (first.name == name) = false := by simpa using hname
      simp only [hbeq, List.mem_cons, ih h.2]
      constructor
      · rintro ⟨hmem, hnode⟩
        exact ⟨.inr hmem, hnode⟩
      · rintro ⟨rfl | hmem, hnode⟩
        · exact absurd hnode hname
        · exact ⟨hmem, hnode⟩

end Graph

end FlowLint
