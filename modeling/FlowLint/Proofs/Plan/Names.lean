import FlowLint.Graph.Reader
import FlowLint.Proofs.Plan.Lines
import FlowLint.Proofs.Plan.Topological

/-!
# The names of a plan

The checks take the first node of a name, and a plan shows the last one. A graph may have several
nodes of one name: without a cycle the plan lists the name once, and with one as often as it is
declared. So the plan tells what the checks find exactly when no name is repeated on a cyclic graph
and the first and the last node of each name look the same in it.

* **`Plan.map_fst_entries`**: the numbered lines list the names in the order of the plan.
* **`Plan.nodup_order_iff`**, **`Plan.mem_order_iff`**: which names these are, and when none is
  listed twice.
* **`Plan.resolved_iff`**: when the plan agrees with the names as the checks resolve them.
-/

namespace FlowLint

/-- What a plan shows of a node next to its name: its category, and whether it is disabled. -/
def Node.shown (n : Node) : Category × Bool :=
  (n.category, n.disabled)

/-- The first and the last node of a name look the same in a plan. -/
def Graph.NamesAgree (g : Graph) : Prop :=
  ∀ name first last, g.node? name = some first → g.lastNode? name = some last →
    last.shown = first.shown

namespace Plan

/-- What a numbered line shows. -/
def Line.entry? : Line → Option (String × Category × Bool)
  | .node _ name category disabled => some (name, category, disabled)
  | _ => none

/-- What the numbered lines of a plan show, one after the other. -/
def entries (g : Graph) : List (String × Category × Bool) :=
  (lines g).filterMap Line.entry?

/-- The plan agrees with the names as they are resolved to their first nodes: each name is listed
once, with what is shown of that node. -/
structure Resolved (g : Graph) : Prop where
  names_nodup : ((entries g).map (·.1)).Nodup
  listed_iff : ∀ name, name ∈ (entries g).map (·.1) ↔ name ∈ g.nodes.map (·.name)
  shown_eq : ∀ entry ∈ entries g, (g.node? entry.1).map Node.shown = some entry.2

variable {g : Graph}

/-! ## Numbered lines -/

theorem name_of_find? {nodes : List Node} {name : String} {n : Node}
    (h : nodes.find? (fun m => m.name == name) = some n) : n.name = name := by
  simpa using List.find?_some h

theorem filterMap_entry?_block (index : ReverseIndex) (number : Nat) (name : String) :
    (block g index number name).filterMap Line.entry?
      = ((g.lastNode? name).map fun last => (name, last.shown)).toList := by
  cases hlast : g.lastNode? name with
  | none =>
    rw [block, hlast]
    rfl
  | some last =>
    obtain rfl := name_of_find? hlast
    have hbody : (body g index last).filterMap Line.entry? = [] := by
      refine List.filterMap_eq_nil_iff.2 fun line hline => ?_
      rcases mem_body hline with hwire | rfl
      · cases line with
        | capability | output => rfl
        | _ => exact absurd hwire Bool.false_ne_true
      · rfl
    rw [block_of_lastNode? hlast, List.filterMap_cons, hbody]
    rfl

/-- The numbered lines show the last nodes of the names. -/
theorem entries_eq (g : Graph) :
    entries g = (order g (.build g)).filterMap fun name =>
      (g.lastNode? name).map fun last => (name, last.shown) := by
  have hnames : ∀ names : List String,
      (names.zipIdx.flatMap fun numbered =>
          block g (.build g) (numbered.2 + 1) numbered.1).filterMap Line.entry?
        = names.filterMap fun name => (g.lastNode? name).map fun last => (name, last.shown) := by
    intro names
    rw [List.filterMap_flatMap]
    simp only [filterMap_entry?_block]
    rw [List.filterMap_eq_flatMap_toList]
    conv_rhs => rw [← List.zipIdx_map_fst 0 names, List.flatMap_map]
  rw [entries, lines, List.filterMap_cons_none rfl]
  exact hnames _

theorem mem_order_iff (h : g.TableDistinct) {name : String} :
    name ∈ order g (.build g) ↔ name ∈ g.nodes.map (·.name) := by
  by_cases hcyclic : g.Cyclic
  · rw [order_of_cyclic h hcyclic]
  · rw [((drawn_order h hcyclic).perm (ReverseIndex.nodup_eraseDups _)).mem_iff, mem_names_iff]

/-- A name is listed twice only on a cyclic graph with several nodes of it. -/
theorem nodup_order_iff (h : g.TableDistinct) :
    (order g (.build g)).Nodup ↔ (g.Cyclic → g.NamesDistinct) := by
  by_cases hcyclic : g.Cyclic
  · rw [order_of_cyclic h hcyclic]
    exact ⟨fun hnodup _ => hnodup, fun hdistinct => hdistinct hcyclic⟩
  · have hnodup : g.names.Nodup := ReverseIndex.nodup_eraseDups _
    have hperm := (drawn_order h hcyclic).perm hnodup
    exact ⟨fun _ hcycle => absurd hcycle hcyclic, fun _ => hperm.nodup_iff.2 hnodup⟩

/-! ## First and last nodes -/

/-- A name that is declared has a first node and a last one. -/
theorem exists_first_last {name : String} (h : name ∈ g.nodes.map (·.name)) :
    ∃ first last, g.node? name = some first ∧ g.lastNode? name = some last := by
  obtain ⟨n, hn, hname⟩ := List.mem_map.1 h
  have hsome : ∀ nodes : List Node, n ∈ nodes → ∃ found,
      nodes.find? (·.name == name) = some found := fun nodes hmem =>
    Option.isSome_iff_exists.1 (List.find?_isSome.2 ⟨n, hmem, beq_iff_eq.2 hname⟩)
  obtain ⟨first, hfirst⟩ := hsome g.nodes hn
  obtain ⟨last, hlast⟩ := hsome g.nodes.reverse (List.mem_reverse.2 hn)
  exact ⟨first, last, hfirst, hlast⟩

/-- A name without another node of it has one node only. -/
theorem namesAgree_of_distinct (h : g.NamesDistinct) : g.NamesAgree := by
  intro name first last hfirst hlast
  have hsame : g.lastNode? name = some first :=
    (Graph.lastNode?_eq_some_iff h name first).2 ((Graph.node?_eq_some_iff h name first).1 hfirst)
  rw [Option.some.inj (hlast.symm.trans hsame)]

/-- **The numbered lines list the names in the order of the plan.** -/
theorem map_fst_entries (h : g.TableDistinct) :
    (entries g).map (·.1) = order g (.build g) := by
  have hlisted : ∀ name ∈ order g (.build g),
      ((g.lastNode? name).map fun last => (name, last.shown)).map (·.1) = some name := by
    intro name hname
    obtain ⟨-, last, -, hlast⟩ := exists_first_last ((mem_order_iff h).1 hname)
    rw [hlast]
    rfl
  rw [entries_eq, List.map_filterMap]
  exact (List.filterMap_congr hlisted).trans List.filterMap_some

/-- What is shown is that of the first nodes exactly when first and last nodes look the same. -/
theorem shown_eq_iff (h : g.TableDistinct) :
    (∀ entry ∈ entries g, (g.node? entry.1).map Node.shown = some entry.2) ↔ g.NamesAgree := by
  rw [entries_eq]
  constructor
  · intro hshown name first last hfirst hlast
    have hname : name ∈ g.nodes.map (·.name) :=
      List.mem_map.2 ⟨first, List.mem_of_find?_eq_some hfirst, name_of_find? hfirst⟩
    have hentry := hshown (name, last.shown)
      (List.mem_filterMap.2 ⟨name, (mem_order_iff h).2 hname, by rw [hlast]; rfl⟩)
    rw [hfirst] at hentry
    exact (Option.some.inj hentry).symm
  · intro hagree entry hentry
    obtain ⟨name, hname, hlisted⟩ := List.mem_filterMap.1 hentry
    obtain ⟨first, last, hfirst, hlast⟩ := exists_first_last ((mem_order_iff h).1 hname)
    rw [hlast] at hlisted
    obtain rfl : (name, last.shown) = entry := Option.some.inj hlisted
    rw [hfirst, Option.map_some, hagree name first last hfirst hlast]

/-- **When a plan agrees with the names.** Each name is listed once, with what is shown of its first
node, exactly when no name is repeated on a cyclic graph and the first and the last node of each
name look the same. So it is when no name is repeated at all. -/
theorem resolved_iff (g : Graph) (htable : g.TableDistinct) :
    (Resolved g ↔ (g.Cyclic → g.NamesDistinct) ∧ g.NamesAgree)
    ∧ (g.NamesDistinct → Resolved g) := by
  have hiff : Resolved g ↔ (g.Cyclic → g.NamesDistinct) ∧ g.NamesAgree := by
    rw [← nodup_order_iff htable, ← shown_eq_iff htable, ← map_fst_entries htable]
    refine ⟨fun h => ⟨h.names_nodup, h.shown_eq⟩, fun ⟨hnodup, hshown⟩ => ⟨hnodup, ?_, hshown⟩⟩
    intro name
    rw [map_fst_entries htable, mem_order_iff htable]
  exact ⟨hiff, fun hdistinct => hiff.2 ⟨fun _ => hdistinct, namesAgree_of_distinct hdistinct⟩⟩

/-- Two nodes of one name that look the same, and a wire that leads nowhere. -/
def twinSteps : Graph where
  name := none
  nodes := [⟨some "1", "Step", "n8n-nodes-base.set", .null, [], [], false, []⟩,
    ⟨some "2", "Step", "n8n-nodes-base.noOp", .null, [], [], false, []⟩]
  connections := [(.text "Step", .map [(.text "main",
    .list [.list [.map [(.text "node", .text "gone")]]])])]
  extra := []

/-- The plan of nodes with one name that look the same lists the name once. -/
theorem resolved_twinSteps :
    twinSteps.TableDistinct ∧ ¬ twinSteps.NamesDistinct
    ∧ entries twinSteps = [("Step", .other, false)] ∧ Resolved twinSteps := by
  have htable : twinSteps.TableDistinct := ⟨by decide, by decide⟩
  have hrepeated : ¬ twinSteps.NamesDistinct := by
    unfold Graph.NamesDistinct
    decide
  have hacyclic : ¬ twinSteps.Cyclic := fun hcyclic =>
    absurd (order_of_cyclic htable hcyclic) (by decide)
  have hshown : ∀ n ∈ twinSteps.nodes, n.shown = (.other, false) := by decide
  have hagree : twinSteps.NamesAgree := by
    intro name first last hfirst hlast
    rw [hshown first (List.mem_of_find?_eq_some hfirst),
      hshown last (List.mem_reverse.1 (List.mem_of_find?_eq_some hlast))]
  exact ⟨htable, hrepeated, rfl,
    (resolved_iff twinSteps htable).1.2 ⟨fun hcyclic => absurd hcyclic hacyclic, hagree⟩⟩

/-- Two nodes of one name, of which the second is disabled. -/
def disabledTwin : Value :=
  .map [(.text "nodes", .list [step [], step [(.text "disabled", .bool true)]]),
    (.text "connections", .map [])]
where
  step (rest : Members) : Value :=
    .map ((.text "name", .text "Step") :: (.text "type", .text "n8n-nodes-base.set") :: rest)

/-- Two nodes of one name that is wired to itself. -/
def loopedTwin : Value :=
  .map [(.text "nodes", .list [disabledTwin.step [], disabledTwin.step []]),
    (.text "connections", .map [(.text "Step", .map [(.text "main",
      .list [.list [.map [(.text "node", .text "Step")]]])])])]

/-- A repeated name is shown as its last node, and with a cycle it is listed as often as it is
declared. -/
theorem not_resolved_twins :
    (∃ g, Graph.ofValue disabledTwin = .ok g ∧ entries g = [("Step", .other, true)]
      ∧ (g.node? "Step").map Node.shown = some (.other, false) ∧ ¬ Resolved g)
    ∧ ∃ g, Graph.ofValue loopedTwin = .ok g
      ∧ entries g = [("Step", .other, false), ("Step", .other, false)] ∧ ¬ Resolved g := by
  refine ⟨⟨_, rfl, rfl, rfl, fun h => ?_⟩, _, rfl, rfl, fun h => ?_⟩
  · exact absurd (h.shown_eq ("Step", .other, true) List.mem_cons_self) (by decide)
  · exact absurd h.names_nodup (by decide)

end Plan

end FlowLint
