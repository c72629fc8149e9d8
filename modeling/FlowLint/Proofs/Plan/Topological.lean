import FlowLint.Proofs.Plan.Order
import Mathlib.Logic.Relation
import Mathlib.Order.WellFoundedSet

/-!
# The order of a plan is the best one

When no way along the wires between nodes comes back to where it starts, there are orders of the
nodes in which every wire leads onward. The plan takes the first of them, by the positions at which
its names are declared, and in a graph with a cycle it takes the names as they are declared.

* **`Plan.mem_edges_iff`**: the edges of a plan, which are read from the reverse index, are those
  along which the wires of the table lead.
* **`Plan.Drawn.onward`**: in drawn names every edge leads onward. A name is taken when none that
  waits leads to it.
* **`Plan.Drawn.eq_or_lex`**: of all such orders the drawn one comes first. Another order starts
  with a name that is ready too, so its first name has no less rank than the one that is taken; if
  it is the same one, the others decide.
* **`Plan.exists_orderFrom?`**, **`Plan.order_of_cyclic`**: names can be drawn exactly when there is
  no cycle, as finitely many names without a cycle have one that nothing leads to
  (`Plan.exists_ready`).
* **`Plan.order_best`**: so the order of a plan is the best one.
-/

namespace FlowLint

open Relation

/-! ## Orders of the nodes -/

namespace Graph

/-- A wire leads from one node to another, or back to the same one. -/
structure Leads (g : Graph) (source target : String) : Prop where
  source_mem : source ∈ g.nodes.map (·.name)
  target_mem : target ∈ g.nodes.map (·.name)
  wired : ∃ wire ∈ g.wires, wire.source = source ∧ wire.target = target

/-- Some way along the wires between nodes comes back to where it starts. -/
def Cyclic (g : Graph) : Prop :=
  ∃ name, TransGen g.Leads name name

/-- The names of the nodes, each once, in an order in which every wire between nodes leads onward.
-/
structure IsTopological (g : Graph) (names : List String) : Prop where
  perm : names.Perm (g.nodes.map (·.name))
  onward : ∀ source target, g.Leads source target → names.idxOf source < names.idxOf target

/-- The positions at which names are declared. -/
def positions (g : Graph) (names : List String) : List Nat :=
  names.map fun name => (g.nodes.map (·.name)).idxOf name

/-- When no name comes twice, its last node is its only one. -/
theorem lastPosition_eq_idxOf {g : Graph} (h : g.NamesDistinct) {name : String}
    (hname : name ∈ g.nodes.map (·.name)) :
    g.lastPosition name = (g.nodes.map (·.name)).idxOf name := by
  obtain ⟨n, hn, rfl⟩ := List.mem_map.1 hname
  obtain ⟨before, after, hnodes⟩ := List.append_of_mem hn
  rw [NamesDistinct, hnodes, List.map_append, List.map_cons] at h
  obtain ⟨-, hafter, hbefore⟩ := List.nodup_append.1 h
  have hlast : after.reverse.findIdx (·.name == n.name) = after.reverse.length := by
    refine List.findIdx_eq_length.2 fun other hother => ?_
    have hmem : other.name ∈ after.map (·.name) :=
      List.mem_map_of_mem (List.mem_reverse.1 hother)
    exact beq_false_of_ne fun hsame => (List.nodup_cons.1 hafter).1 (hsame ▸ hmem)
  have hfirst : n.name ∉ before.map (·.name) := fun hmem =>
    hbefore n.name hmem n.name List.mem_cons_self rfl
  rw [lastPosition, hnodes, List.reverse_append, List.reverse_cons, List.append_assoc,
    List.findIdx_append, hlast, if_neg (Nat.lt_irrefl _), List.singleton_append,
    List.findIdx_cons, beq_self_eq_true, cond_true, List.map_append, List.map_cons,
    List.idxOf_append_of_notMem hfirst, List.idxOf_cons_self, List.length_append,
    List.length_cons, List.length_reverse, List.length_map]
  omega

end Graph

/-! ## Edges -/

namespace ReverseIndex

/-- What stands under a target of an index, when none is repeated, is what is found there. -/
theorem exists_mem_entries_iff {index : ReverseIndex} (h : index.names.Nodup) {target : String}
    {edge : InboundEdge} :
    (∃ edges, (target, edges) ∈ index.entries ∧ edge ∈ edges) ↔ edge ∈ index.allInbound target := by
  have hlookup : ∀ edges, (target, edges) ∈ index.entries
      ↔ index.entries.lookup target = some edges := by
    intro edges
    rw [List.lookup_eq_some_iff]
    constructor
    · intro hmem
      obtain ⟨before, after, hentries⟩ := List.append_of_mem hmem
      rw [names, hentries, List.map_append, List.map_cons] at h
      refine ⟨before, after, hentries, fun entry hentry => bne_iff_ne.2 fun hsame => ?_⟩
      exact (List.nodup_append.1 h).2.2 entry.1 (List.mem_map_of_mem hentry) target
        List.mem_cons_self hsame.symm
    · rintro ⟨before, after, hentries, -⟩
      rw [hentries]
      exact List.mem_append_right _ List.mem_cons_self
  simp only [hlookup, allInbound]
  cases index.entries.lookup target <;> simp

theorem nodup_names_build {g : Graph} (h : g.TableDistinct) : (build g).names.Nodup := by
  rw [build_eq_foldl_wires h, names_foldl]
  exact nodup_eraseDups _

end ReverseIndex

namespace Plan

/-- **The edges of a plan are those along which wires lead.** -/
theorem mem_edges_iff {g : Graph} (h : g.TableDistinct) {source target : String} :
    (source, target) ∈ edges g (.build g) ↔ g.Leads source target := by
  have hnames : ∀ name, g.names.contains name = true ↔ name ∈ g.nodes.map (·.name) := fun name =>
    List.contains_iff_mem.trans mem_names_iff
  -- an edge that stands under the target is a wire to it, seen from there
  have hinbound : ∀ edge, (∃ inbound, (target, inbound) ∈ (ReverseIndex.build g).entries
        ∧ edge ∈ inbound) ↔ ∃ wire ∈ g.wires, wire.target = target ∧ wire.edge = edge := by
    intro edge
    rw [ReverseIndex.exists_mem_entries_iff (ReverseIndex.nodup_names_build h),
      ReverseIndex.allInbound_build h, List.mem_map]
    simp only [List.mem_filter, beq_iff_eq, and_assoc]
  rw [edges, List.mem_flatMap]
  constructor
  · rintro ⟨⟨other, inbound⟩, hentry, hedge⟩
    dsimp only at hedge
    split at hedge
    · next htarget =>
      obtain ⟨edge, hfound, hsame⟩ := List.mem_map.1 hedge
      obtain ⟨hfound, hsource⟩ := List.mem_filter.1 hfound
      cases hsame
      obtain ⟨wire, hwire, rfl, rfl⟩ := (hinbound edge).1 ⟨inbound, hentry, hfound⟩
      exact ⟨(hnames _).1 hsource, (hnames _).1 htarget, wire, hwire, rfl, rfl⟩
    · exact absurd hedge List.not_mem_nil
  · rintro ⟨hsource, htarget, wire, hwire, rfl, rfl⟩
    obtain ⟨inbound, hentry, hfound⟩ := (hinbound wire.edge).2 ⟨wire, hwire, rfl, rfl⟩
    refine ⟨(wire.target, inbound), hentry, ?_⟩
    dsimp only
    rw [if_pos ((hnames _).2 htarget)]
    exact List.mem_map.2 ⟨wire.edge, List.mem_filter.2 ⟨hfound, (hnames _).2 hsource⟩, rfl⟩

/-! ## Drawn names -/

section

variable {edges : List (String × String)} {rank : String → Nat} {waiting names : List String}

/-- Every edge between waiting names leads onward. -/
def Onward (edges : List (String × String)) (waiting names : List String) : Prop :=
  ∀ source ∈ waiting, ∀ target ∈ waiting, (source, target) ∈ edges →
    names.idxOf source < names.idxOf target

/-- The same edges lead onward when the first name is taken away. -/
theorem Onward.tail {name : String} (h : Onward edges waiting (name :: names)) :
    Onward edges (waiting.filter (· != name)) names := by
  intro source hsource target htarget hedge
  obtain ⟨hsource, hsourceLater⟩ := List.mem_filter.1 hsource
  obtain ⟨htarget, htargetLater⟩ := List.mem_filter.1 htarget
  have hless := h source hsource target htarget hedge
  rw [List.idxOf_cons_ne names (bne_iff_ne.1 hsourceLater).symm,
    List.idxOf_cons_ne names (bne_iff_ne.1 htargetLater).symm] at hless
  exact Nat.lt_of_succ_lt_succ hless

/-- **In drawn names every edge leads onward.** -/
theorem Drawn.onward (h : Drawn edges rank waiting names) : Onward edges waiting names := by
  induction h with
  | nil => exact fun _ hsource => absurd hsource List.not_mem_nil
  | @cons waiting rest name hnext _ ih =>
    obtain ⟨-, hready, -⟩ := next?_eq_some hnext
    intro source hsource target htarget hedge
    -- no edge leads to the name that is taken first
    have htargetLater : target ≠ name := fun hsame => hready source hsource (hsame ▸ hedge)
    rw [List.idxOf_cons_ne rest htargetLater.symm]
    by_cases hfirst : source = name
    · rw [hfirst, List.idxOf_cons_self]
      exact Nat.succ_pos _
    · rw [List.idxOf_cons_ne rest (Ne.symm hfirst)]
      have hless := ih source (List.mem_filter.2 ⟨hsource, bne_iff_ne.2 hfirst⟩) target
        (List.mem_filter.2 ⟨htarget, bne_iff_ne.2 htargetLater⟩) hedge
      exact Nat.succ_lt_succ hless

/-- **Drawn names come first**, by their ranks, among all orders in which every edge leads onward.
-/
theorem Drawn.eq_or_lex (h : Drawn edges rank waiting names) (hwaiting : waiting.Nodup)
    (hrank : ∀ name ∈ waiting, ∀ other ∈ waiting, rank name = rank other → name = other)
    {others : List String} (hperm : others.Perm waiting) (honward : Onward edges waiting others) :
    others = names ∨ List.Lex (· < ·) (names.map rank) (others.map rank) := by
  induction h generalizing others with
  | nil => exact .inl hperm.eq_nil
  | @cons waiting rest name hnext _ ih =>
    obtain ⟨hname, -, hleast⟩ := next?_eq_some hnext
    cases others with
    | nil => exact absurd (hperm.mem_iff.2 hname) List.not_mem_nil
    | cons first later =>
      have hfirst : first ∈ waiting := hperm.mem_iff.1 List.mem_cons_self
      -- what leads to the first name of the other order would have to stand in front of it
      have hready : ∀ source ∈ waiting, (source, first) ∉ edges := by
        intro source hsource hedge
        have hless := honward source hsource first hfirst hedge
        rw [List.idxOf_cons_self] at hless
        exact Nat.not_lt_zero _ hless
      rw [List.map_cons, List.map_cons]
      rcases Nat.lt_or_eq_of_le (hleast first hfirst hready) with hless | hsame
      · exact .inr (.rel hless)
      · obtain rfl := hrank name hname first hfirst hsame
        have hlater : later.Perm (waiting.filter (· != name)) := by
          rw [← hwaiting.erase_eq_filter]
          exact (List.cons_perm_iff_perm_erase.1 hperm).2
        have hrankLater : ∀ one ∈ waiting.filter (· != name),
            ∀ other ∈ waiting.filter (· != name), rank one = rank other → one = other :=
          fun one hone other hother =>
            hrank one (List.mem_of_mem_filter hone) other (List.mem_of_mem_filter hother)
        rcases ih (hwaiting.filter _) hrankLater hlater honward.tail with rfl | hless
        · exact .inl rfl
        · exact .inr (.cons hless)

/-! ## Cycles -/

/-- The way along an edge. -/
def Edge (edges : List (String × String)) (source target : String) : Prop :=
  (source, target) ∈ edges

/-- Of finitely many names without a cycle there is one that none of them leads to. -/
theorem exists_ready (h : ∀ name, ¬ TransGen (Edge edges) name name) (hwaiting : waiting ≠ []) :
    ∃ name ∈ waiting, ∀ source ∈ waiting, (source, name) ∉ edges := by
  have horder : IsStrictOrder String (TransGen (Edge edges)) :=
    { irrefl := h, trans := fun _ _ _ => .trans }
  have hwellFounded : Set.WellFoundedOn {name | name ∈ waiting} (TransGen (Edge edges)) :=
    (List.finite_toSet waiting).wellFoundedOn
  obtain ⟨first, hfirst⟩ := List.exists_mem_of_ne_nil waiting hwaiting
  obtain ⟨⟨name, hname⟩, -, hleast⟩ :=
    WellFounded.has_min hwellFounded Set.univ ⟨⟨first, hfirst⟩, trivial⟩
  exact ⟨name, hname, fun source hsource hedge =>
    hleast ⟨source, hsource⟩ trivial (.single hedge)⟩

/-- Without a cycle an order is found. -/
theorem exists_orderFrom? (h : ∀ name, ¬ TransGen (Edge edges) name name) {fuel : Nat}
    (hfuel : waiting.length ≤ fuel) :
    ∃ names, orderFrom? edges rank waiting fuel = some names := by
  induction fuel generalizing waiting with
  | zero =>
    rw [List.length_eq_zero_iff.1 (Nat.le_zero.1 hfuel)]
    exact ⟨[], rfl⟩
  | succ fuel ih =>
    rw [orderFrom?]
    split
    · exact ⟨[], rfl⟩
    · next hsome =>
      cases hnext : next? edges rank waiting with
      | none =>
        obtain ⟨name, hname, hready⟩ := exists_ready h (mt List.isEmpty_iff.2 hsome)
        obtain ⟨source, hsource, hedge⟩ := next?_eq_none hnext hname
        exact absurd hedge (hready source hsource)
      | some name =>
        have hfewer : (waiting.filter (· != name)).length < waiting.length := by
          rw [List.length_filter_lt_length_iff_exists]
          exact ⟨name, (next?_eq_some hnext).1, by simp⟩
        obtain ⟨rest, hrest⟩ := ih (Nat.le_of_lt_succ (Nat.lt_of_lt_of_le hfewer hfuel))
        exact ⟨name :: rest, by simp only [hrest, Option.map_some]⟩

end

variable {g : Graph}

theorem edge_eq_leads (h : g.TableDistinct) : Edge (edges g (.build g)) = g.Leads :=
  funext fun _ => funext fun _ => propext (mem_edges_iff h)

/-- Without a cycle the names of a plan are drawn. Names of nodes may be repeated here. -/
theorem drawn_order (h : g.TableDistinct) (hacyclic : ¬ g.Cyclic) :
    Drawn (edges g (.build g)) g.lastPosition g.names (order g (.build g)) := by
  have hedges : ∀ name, ¬ TransGen (Edge (edges g (.build g))) name name := by
    rw [edge_eq_leads h]
    exact not_exists.1 hacyclic
  obtain ⟨names, hnames⟩ : ∃ names,
      orderFrom? (edges g (.build g)) g.lastPosition g.names g.names.length = some names :=
    exists_orderFrom? hedges (Nat.le_refl _)
  have horder : order g (.build g) = names := by rw [order, hnames]
  rw [horder]
  exact drawn_of_orderFrom? hnames

/-- **With a cycle the names stand as they are declared.** -/
theorem order_of_cyclic (h : g.TableDistinct) (hcyclic : g.Cyclic) :
    order g (.build g) = g.nodes.map (·.name) := by
  rw [order]
  split
  · next names hnames =>
    -- along a cycle of names in order one would come before itself
    have honward := (drawn_of_orderFrom? hnames).onward
    have hstep : ∀ source target, g.Leads source target →
        names.idxOf source < names.idxOf target := fun source target hleads =>
      honward source (mem_names_iff.2 hleads.source_mem) target
        (mem_names_iff.2 hleads.target_mem) ((mem_edges_iff h).2 hleads)
    have hway : ∀ source target, TransGen g.Leads source target →
        names.idxOf source < names.idxOf target := by
      intro source target hway
      induction hway with
      | single hleads => exact hstep _ _ hleads
      | tail _ hleads ih => exact Nat.lt_trans ih (hstep _ _ hleads)
    obtain ⟨name, hcycle⟩ := hcyclic
    exact absurd (hway name name hcycle) (Nat.lt_irrefl _)
  · rfl

/-! ## The best order -/

/-- Nothing comes before numbers that are sorted when it has the same numbers. -/
theorem not_lex_of_sorted {sorted others : List Nat} (h : sorted.Pairwise (· < ·))
    (hperm : others.Perm sorted) : ¬ List.Lex (· < ·) others sorted := by
  induction sorted generalizing others with
  | nil =>
    rw [hperm.eq_nil]
    exact nofun
  | cons least rest ih =>
    obtain ⟨hleast, hrest⟩ := List.pairwise_cons.1 h
    intro hless
    cases hless with
    | nil => exact absurd hperm.symm (List.not_perm_cons_nil)
    | cons hlater => exact ih hrest hperm.cons_inv hlater
    | rel hfirst =>
      rcases List.mem_cons.1 (hperm.mem_iff.1 List.mem_cons_self) with rfl | hmem
      · exact Nat.lt_irrefl _ hfirst
      · exact Nat.lt_asymm hfirst (hleast _ hmem)

theorem sorted_positions (h : g.NamesDistinct) :
    (g.positions (g.nodes.map (·.name))).Pairwise (· < ·) := by
  rw [Graph.positions, List.pairwise_map, List.pairwise_iff_getElem]
  intro i j hi hj hless
  rw [List.Nodup.idxOf_getElem h i hi, List.Nodup.idxOf_getElem h j hj]
  exact hless

/-- The ranks by which the names are drawn are their positions. -/
theorem map_lastPosition (h : g.NamesDistinct) {names : List String}
    (hnames : names.Perm (g.nodes.map (·.name))) : names.map g.lastPosition = g.positions names :=
  List.map_congr_left fun _ hname => Graph.lastPosition_eq_idxOf h (hnames.mem_iff.1 hname)

theorem isTopological_iff (htable : g.TableDistinct) (hnames : g.NamesDistinct)
    {names : List String} :
    g.IsTopological names
      ↔ names.Perm g.names ∧ Onward (edges g (.build g)) g.names names := by
  have hperm : names.Perm (g.nodes.map (·.name)) ↔ names.Perm g.names :=
    ⟨fun h => h.trans (names_perm hnames).symm, fun h => h.trans (names_perm hnames)⟩
  constructor
  · rintro ⟨hall, honward⟩
    exact ⟨hperm.1 hall, fun source _ target _ hedge =>
      honward source target ((mem_edges_iff htable).1 hedge)⟩
  · rintro ⟨hall, honward⟩
    exact ⟨hperm.2 hall, fun source target hleads =>
      honward source (mem_names_iff.2 hleads.source_mem) target
        (mem_names_iff.2 hleads.target_mem) ((mem_edges_iff htable).2 hleads)⟩

/-- **The order of a plan is the best one.** Without a cycle it is an order of the nodes in which
every wire leads onward, and of all such orders it comes first by the positions at which the names
are declared; so it is the order of declaration if that is such an order. With a cycle it is the
order of declaration. -/
theorem order_best (g : Graph) (htable : g.TableDistinct) (hnames : g.NamesDistinct) :
    (¬ g.Cyclic →
      g.IsTopological (order g (.build g))
      ∧ (∀ others, g.IsTopological others → others = order g (.build g)
        ∨ List.Lex (· < ·) (g.positions (order g (.build g))) (g.positions others))
      ∧ (g.IsTopological (g.nodes.map (·.name)) → order g (.build g) = g.nodes.map (·.name)))
    ∧ (g.Cyclic → order g (.build g) = g.nodes.map (·.name)) := by
  refine ⟨fun hacyclic => ?_, order_of_cyclic htable⟩
  have hdrawn := drawn_order htable hacyclic
  have hnodup : g.names.Nodup := ReverseIndex.nodup_eraseDups _
  have hperm := order_perm hnames (.build g)
  have hrank : ∀ name ∈ g.names, ∀ other ∈ g.names,
      g.lastPosition name = g.lastPosition other → name = other := by
    intro name hname other hother hsame
    rw [Graph.lastPosition_eq_idxOf hnames (mem_names_iff.1 hname),
      Graph.lastPosition_eq_idxOf hnames (mem_names_iff.1 hother)] at hsame
    exact (List.idxOf_inj (mem_names_iff.1 hname)).1 hsame
  have hfirst : ∀ others, g.IsTopological others → others = order g (.build g)
      ∨ List.Lex (· < ·) (g.positions (order g (.build g))) (g.positions others) := by
    intro others hothers
    obtain ⟨hall, honward⟩ := (isTopological_iff htable hnames).1 hothers
    rw [← map_lastPosition hnames hperm, ← map_lastPosition hnames hothers.perm]
    exact hdrawn.eq_or_lex hnodup hrank hall honward
  refine ⟨(isTopological_iff htable hnames).2 ⟨hdrawn.perm hnodup, hdrawn.onward⟩, hfirst,
    fun hdeclared => ?_⟩
  rcases hfirst _ hdeclared with hsame | hless
  · exact hsame.symm
  · exact absurd hless (not_lex_of_sorted (sorted_positions hnames) (hperm.map _))

/-- Two tools and a chat that feed an agent declared first, a node that nothing is wired to, and
wires from and to nodes that are not there. -/
def lateAgent : Graph where
  name := none
  nodes := [node "agent" NodeType.agentType, node "log" "nodes-base.set",
    node "chat" NodeType.chatTriggerType, node "sum" "nodes-langchain.toolCalculator"]
  connections :=
    [(.text "sum", .map [(.text "ai_tool", .list [.list [entry "agent", entry "gone"]])]),
      (.text "gone", .map [(.text "main", .list [.list [entry "chat"]])]),
      (.text "chat", .map [(.text "main", .list [.list [entry "agent", entry "agent"]])])]
  extra := []
where
  node (name type : String) : Node := ⟨none, name, type, .null, [], [], false, []⟩
  entry (node : String) : Value := .map [(.text "node", .text node)]

/-- The same nodes with the agent wired to itself. -/
def lateAgent.looped : Graph :=
  { lateAgent with
    connections := (.text "agent", .map [(.text "main", .list [.list [entry "agent"]])])
      :: lateAgent.connections }

/-- The agent waits for what feeds it, and all others stand as they are declared. -/
theorem order_best_lateAgent :
    (lateAgent.TableDistinct ∧ lateAgent.NamesDistinct ∧ ¬ lateAgent.Cyclic
      ∧ lateAgent.IsTopological ["log", "chat", "sum", "agent"]
      ∧ ∀ others, lateAgent.IsTopological others → others = ["log", "chat", "sum", "agent"]
        ∨ List.Lex (· < ·) [1, 2, 3, 0] (lateAgent.positions others))
    ∧ lateAgent.looped.Cyclic
    ∧ order lateAgent.looped (.build lateAgent.looped) = ["agent", "log", "chat", "sum"] := by
  have htable : lateAgent.TableDistinct := ⟨by decide, by decide⟩
  have hnames : lateAgent.NamesDistinct := by
    unfold Graph.NamesDistinct
    decide
  have hacyclic : ¬ lateAgent.Cyclic := fun hcyclic =>
    absurd ((order_best lateAgent htable hnames).2 hcyclic) (by decide)
  obtain ⟨htopological, hfirst, -⟩ := (order_best lateAgent htable hnames).1 hacyclic
  have hlooped : lateAgent.looped.Leads "agent" "agent" :=
    ⟨List.mem_cons_self, List.mem_cons_self, ⟨"agent", "agent", "main", 0⟩, by decide, rfl, rfl⟩
  have hcyclic : lateAgent.looped.Cyclic := ⟨"agent", .single hlooped⟩
  have hloopedTable : lateAgent.looped.TableDistinct := ⟨by decide, by decide⟩
  exact ⟨⟨htable, hnames, hacyclic, htopological, hfirst⟩, hcyclic,
    (order_best lateAgent.looped hloopedTable hnames).2 hcyclic⟩

end Plan

end FlowLint
