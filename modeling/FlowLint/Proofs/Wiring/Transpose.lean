import FlowLint.Graph.ReverseIndex
import FlowLint.Proofs.Wiring.Table
import Mathlib.Data.List.Basic
import Mathlib.Data.List.Induction
import Mathlib.Data.List.Nodup

/-!
# The reverse index is the transpose of the connection table

The reverse index is filled edge by edge in four loops, one inside the other, and every loop passes
something over. Here the loops become one: the index is what comes out when the wires of the table
are added in their order.

* **`build_eq_foldl_wires`**: the loops visit exactly the wires of the table.
* **`allInbound_foldl`** and **`names_foldl`**: what a run of additions leaves under a target, and
  which targets it leaves in which order. Both are inductions over the wires, with
  `allInbound_add` and `names_add` for one addition.
* **`transpose_build`**: each target has its wires, in the order of the table and as often as they
  stand there; targets come in the order of their first wires; and counting the edges from a source
  is counting its targets in the table.
-/

namespace FlowLint

/-- A wire as its target sees it. -/
def Wire.edge (wire : Wire) : InboundEdge :=
  ⟨wire.source, wire.port, wire.slot⟩

namespace ReverseIndex

/-- The targets of an index, in its order. -/
def names (index : ReverseIndex) : List String :=
  index.entries.map (·.1)

/-- Adds a wire. -/
def addWire (index : ReverseIndex) (wire : Wire) : ReverseIndex :=
  index.add wire.target wire.edge

/-! ## The loops visit the wires

From the inside out: the loops over the slots and targets of a port, over the ports of a source, and
over the sources. The inner two look up what the outer ones have already met, so the table must not
hold a key twice. -/

/-- A loop over members that acts on those under texts only is a loop over the texts. -/
theorem foldl_texts {β : Type} (act : β → String → β) (members : Members) (start : β) :
    members.foldl (fun state member =>
        match member.1 with
        | .text name => act state name
        | _ => state) start
      = members.texts.foldl (fun state member => act state member.1) start := by
  rw [Members.texts, List.foldl_filterMap]
  refine List.foldl_ext _ _ _ fun state member _ => ?_
  obtain ⟨key, value⟩ := member
  cases key <;> rfl

theorem addPort_eq_foldl (g : Graph) (source port : String) (index : ReverseIndex) :
    addPort g source port index
      = (wiresOfSlots source port (g.slots source port)).foldl addWire index := by
  rw [wiresOfSlots, List.foldl_flatMap]
  simp only [List.foldl_map]
  rfl

theorem addSource_eq_foldl {g : Graph} (h : g.TableDistinct) {source : String} {outputs : Value}
    (hmem : (source, outputs) ∈ g.connections.texts) (index : ReverseIndex) :
    addSource g source index = (sourceWires source outputs).foldl addWire index := by
  have hget : g.connections.get? source = some outputs :=
    (Members.mem_texts_iff h.sources source outputs).1 hmem
  have hports : (g.outputs source).Distinct := by
    rw [Graph.outputs_eq_of_get? hget]
    exact h.ports _ (Graph.mem_connections_of_get? hget)
  have hloop : addSource g source index
      = (g.outputs source).texts.foldl (fun index member => addPort g source member.1 index)
          index := by
    rw [addSource, Graph.portsOf, List.foldl_map]
    exact foldl_texts (fun index name => addPort g source name index) _ index
  -- under a port that is met the slots of its own member are found, no other member being under it
  rw [hloop, sourceWires, List.foldl_flatMap, ← Graph.outputs_eq_of_get? hget]
  refine List.foldl_ext _ _ _ fun index member hmember => ?_
  have hslots : (g.outputs source).get? member.1 = some member.2 :=
    (Members.mem_texts_iff hports member.1 member.2).1 hmember
  rw [addPort_eq_foldl, Graph.slots_eq_of_get? hslots, ← portWires_eq_wiresOfSlots]

/-- **The loops visit exactly the wires**, in the order of the table. -/
theorem build_eq_foldl_wires {g : Graph} (h : g.TableDistinct) :
    build g = g.wires.foldl addWire empty := by
  have hloop : build g
      = g.connections.texts.foldl (fun index member => addSource g member.1 index) empty :=
    foldl_texts (fun index source => addSource g source index) g.connections empty
  rw [hloop, Graph.wires, List.foldl_flatMap]
  exact List.foldl_ext _ _ _ fun index member hmember => addSource_eq_foldl h hmember index

/-! ## What a run of additions leaves -/

/-- Under each target stand its wires, behind what was there. -/
theorem allInbound_foldl (wires : List Wire) (index : ReverseIndex) (target : String) :
    (wires.foldl addWire index).allInbound target
      = index.allInbound target ++ (wires.filter (·.target == target)).map Wire.edge := by
  induction wires generalizing index with
  | nil => simp
  | cons wire rest ih =>
    rw [List.foldl_cons, ih, addWire, allInbound_add, List.append_assoc]
    by_cases ht : wire.target = target
    · rw [if_pos ht.symm, List.filter_cons_of_pos (by simpa using ht), List.map_cons]
      rfl
    · rw [if_neg (Ne.symm ht), List.filter_cons_of_neg (by simpa using ht), List.nil_append]

/-- One addition: a target that is new goes to the end. -/
theorem names_add (index : ReverseIndex) (target : String) (edge : InboundEdge) :
    (index.add target edge).names
      = if target ∈ index.names then index.names else index.names ++ [target] := by
  obtain ⟨entries⟩ := index
  show (addTo target edge entries).map (·.1) = _
  simp only [names]
  induction entries with
  | nil => simp [addTo]
  | cons entry rest ih =>
    obtain ⟨name, edges⟩ := entry
    by_cases hname : name = target
    · simp [addTo, hname]
    · have hne : target ≠ name := Ne.symm hname
      rw [addTo, if_neg hname, List.map_cons, ih]
      by_cases hmem : target ∈ rest.map (·.1) <;> simp [hne, hmem]

theorem eraseDups_concat (names : List String) (name : String) :
    (names ++ [name]).eraseDups
      = if name ∈ names.eraseDups then names.eraseDups else names.eraseDups ++ [name] := by
  rw [List.eraseDups_append]
  by_cases hmem : name ∈ names
  · have hgone : [name].removeAll names = [] := by simp [List.removeAll, hmem]
    rw [hgone, if_pos (List.mem_eraseDups.2 hmem), List.eraseDups_nil, List.append_nil]
  · have hstays : [name].removeAll names = [name] := by simp [List.removeAll, hmem]
    rw [hstays, if_neg (mt List.mem_eraseDups.1 hmem)]
    rfl

theorem nodup_eraseDups (names : List String) : names.eraseDups.Nodup := by
  induction names using List.reverseRecOn with
  | nil => exact .nil
  | append_singleton names name ih =>
    rw [eraseDups_concat]
    by_cases hmem : name ∈ names.eraseDups
    · rwa [if_pos hmem]
    · rw [if_neg hmem]
      exact List.nodup_append'.2 ⟨ih, List.nodup_singleton name,
        List.disjoint_singleton.2 hmem⟩

/-- The targets are those of the wires, each once, in the order of their first wires. -/
theorem names_foldl (wires : List Wire) :
    (wires.foldl addWire empty).names = (wires.map (·.target)).eraseDups := by
  -- the last wire decides whether there is one more target
  induction wires using List.reverseRecOn with
  | nil => rfl
  | append_singleton wires wire ih =>
    rw [List.foldl_append, List.foldl_cons, List.foldl_nil, addWire, names_add, ih,
      List.map_append, List.map_singleton, eraseDups_concat]

/-- Adding an edge to an index without empty entries leaves none empty. -/
theorem ne_nil_of_mem_addTo {target : String} {edge : InboundEdge}
    {entries : List (String × List InboundEdge)} (h : ∀ entry ∈ entries, entry.2 ≠ []) :
    ∀ entry ∈ addTo target edge entries, entry.2 ≠ [] := by
  induction entries with
  | nil =>
    intro entry hmem
    rw [addTo, List.mem_singleton] at hmem
    rw [hmem]
    exact List.cons_ne_nil _ _
  | cons first rest ih =>
    obtain ⟨name, edges⟩ := first
    intro entry hmem
    by_cases hname : name = target
    · rw [addTo, if_pos hname, List.mem_cons] at hmem
      rcases hmem with rfl | hmem
      · exact List.append_ne_nil_of_right_ne_nil _ (List.cons_ne_nil _ _)
      · exact h entry (List.mem_cons_of_mem _ hmem)
    · rw [addTo, if_neg hname, List.mem_cons] at hmem
      rcases hmem with rfl | hmem
      · exact h _ List.mem_cons_self
      · exact ih (fun other hother => h other (List.mem_cons_of_mem _ hother)) entry hmem

theorem ne_nil_of_mem_foldl (wires : List Wire) (index : ReverseIndex)
    (h : ∀ entry ∈ index.entries, entry.2 ≠ []) :
    ∀ entry ∈ (wires.foldl addWire index).entries, entry.2 ≠ [] := by
  induction wires generalizing index with
  | nil => exact h
  | cons wire rest ih => exact ih (index.addWire wire) (ne_nil_of_mem_addTo h)

/-! ## The index of a graph -/

theorem allInbound_build {g : Graph} (h : g.TableDistinct) (target : String) :
    (build g).allInbound target = (g.wires.filter (·.target == target)).map Wire.edge := by
  rw [build_eq_foldl_wires h, allInbound_foldl, allInbound_empty, List.nil_append]

theorem inbound_build {g : Graph} (h : g.TableDistinct) (target port : String) :
    (build g).inbound target port
      = (g.wires.filter fun wire => wire.port == port && wire.target == target).map Wire.edge := by
  rw [inbound, allInbound_build h, List.filter_map, List.filter_filter]
  rfl

theorem countInbound_build {g : Graph} (h : g.TableDistinct) (target : String) (port : Port) :
    (build g).countInbound target port = g.wireCount target port := by
  rw [countInbound, inbound_build h, List.length_map, Graph.wireCount, List.countP_eq_length_filter]

/-- **The reverse index is the transpose of the table**, with multiplicity and order. -/
theorem transpose_build (g : Graph) (h : g.TableDistinct) :
    (∀ target, (build g).allInbound target
        = (g.wires.filter (·.target == target)).map Wire.edge)
    ∧ (build g).names = (g.wires.map (·.target)).eraseDups
    ∧ (∀ entry ∈ (build g).entries, entry.2 ≠ [])
    ∧ ∀ source port target,
        ((build g).inbound target port).countP (·.source == source)
          = (g.outbound source port).countP (·.node == target) := by
  refine ⟨allInbound_build h, ?_, ?_, ?_⟩
  · rw [build_eq_foldl_wires h, names_foldl]
  · rw [build_eq_foldl_wires h]
    exact ne_nil_of_mem_foldl g.wires empty (by simp [empty])
  · intro source port target
    -- both sides count the wires with this source, this port and this target
    have hnodes : (g.outbound source port).countP (·.node == target)
        = ((g.outbound source port).map (·.node)).countP (· == target) := by
      rw [List.countP_map]
      rfl
    rw [hnodes, Graph.map_node_outbound h, inbound_build h, List.countP_map, List.countP_map,
      List.countP_filter, List.countP_filter]
    refine List.countP_congr fun wire _ => ?_
    simp only [Function.comp, Wire.edge, Bool.and_eq_true, beq_iff_eq]
    tauto

/-- Two models feed one agent by turns. The first has a slot that is no list, an entry without a
name and a wire that stands twice, and a port and a source are no texts. -/
def sharedAgent : Graph where
  name := none
  nodes := []
  connections :=
    [(.text "m", .map
        [(.text "ai_languageModel", .list
            [.null, .list [entry "agent", .list [], entry ""], .list [entry "agent", entry "log"],
              .list [entry "agent", entry "agent"]]),
          (.int 1, .list [.list [entry "agent"]])]),
      (.bool true, .map [(.text "main", .list [.list [entry "agent"]])]),
      (.text "n", .map [(.text "ai_memory", .list [.list [entry "agent"]])])]
  extra := []
where
  entry (node : String) : Value := .map [(.text "node", .text node)]

theorem transpose_build_sharedAgent :
    sharedAgent.TableDistinct
    ∧ (build sharedAgent).allInbound "agent"
        = [⟨"m", "ai_languageModel", 1⟩, ⟨"m", "ai_languageModel", 2⟩,
          ⟨"m", "ai_languageModel", 3⟩, ⟨"m", "ai_languageModel", 3⟩, ⟨"n", "ai_memory", 0⟩]
    ∧ (build sharedAgent).names = ["agent", "log"]
    ∧ (∀ entry ∈ (build sharedAgent).entries, entry.2 ≠ [])
    ∧ (sharedAgent.outbound "m" "ai_languageModel").countP (·.node == "agent") = 4 := by
  have h : sharedAgent.TableDistinct := ⟨by decide, by decide⟩
  obtain ⟨hinbound, hnames, hedges, hcount⟩ := transpose_build sharedAgent h
  refine ⟨h, ?_, ?_, hedges, ?_⟩
  · rw [hinbound]
    decide
  · rw [hnames]
    decide
  · rw [← hcount "m", inbound, hinbound]
    decide

end ReverseIndex

end FlowLint
