import FlowLint.Proofs.Check.Run
import FlowLint.Report

/-!
# The gate before the checks

A report first asks whether a graph has a node of interest at all, and only then are the nodes
checked. The gate looks at the categories of all nodes, while the checks are chosen node by node and
pass disabled nodes over, so the two could disagree. They do not: what the gate keeps back would
have given nothing.

* **`Check.nodes_of_other`**: nodes without a category of interest give nothing, and no fault.
* **`Report.of_eq_map`**: so a report is a run of the checks, whichever way the gate decides.
* **`Report.of_tells`**: what a report says about a graph, and when there is one.
-/

namespace FlowLint

theorem Graph.isChecked_iff {g : Graph} :
    g.isChecked = true ↔ ∃ n ∈ g.nodes, n.category ≠ .other := by
  rw [Graph.isChecked, List.any_eq_true]
  exact exists_congr fun n => and_congr_right fun _ => bne_iff_ne

namespace Check

/-- A node without a category of interest gives nothing, whether or not it is at work. -/
theorem node_of_other {ctx : Context} {n : Node} (h : n.category = .other) :
    node ctx n = .ok [] := by
  rw [node, h]
  exact ite_self _

/-- **Nodes without a category of interest give nothing**, and none of them ends the run. -/
theorem nodes_of_other {ctx : Context} {ns : List Node} (h : ∀ n ∈ ns, n.category = .other) :
    nodes ctx ns = .ok [] := by
  induction ns with
  | nil => rfl
  | cons first rest ih =>
    obtain ⟨hfirst, hrest⟩ := List.forall_mem_cons.1 h
    rw [nodes, node_of_other hfirst, ih hrest]
    rfl

/-- What the gate keeps back would have given nothing. -/
theorem graph_of_not_isChecked {g : Graph} (settings : Settings) (h : g.isChecked = false) :
    graph g settings = .ok [] := by
  refine nodes_of_other fun n hn => ?_
  by_contra hcategory
  have hchecked : g.isChecked = true := Graph.isChecked_iff.2 ⟨n, hn, hcategory⟩
  rw [h] at hchecked
  exact Bool.noConfusion hchecked

end Check

namespace Report

/-- **A report is a run of the checks**, whichever way the gate decides. -/
theorem of_eq_map (g : Graph) (settings : Settings) :
    Report.of g settings = (Check.graph g settings).map fun ds => ⟨ds, g.isChecked⟩ := by
  unfold Report.of
  cases hchecked : g.isChecked with
  | true => rfl
  | false =>
    rw [Check.graph_of_not_isChecked settings hchecked]
    rfl

/-- What a report says about a graph whose run gives some diagnostics. -/
structure Tells (report : Report) (g : Graph) (ds : List Diagnostic) : Prop where
  diagnostics_eq : report.diagnostics = ds
  errors_eq : report.errors = (ds.filter (·.severity = .error)).map (·.message)
  warnings_eq : report.warnings = (ds.filter (·.severity = .warning)).map (·.message)
  valid_iff : report.valid = true ↔ ∀ d ∈ ds, d.severity ≠ .error
  checked_iff : report.checked = true ↔ ∃ n ∈ g.nodes, n.category ≠ .other

theorem filter_severity_beq (ds : List Diagnostic) (severity : Severity) :
    ds.filter (fun d => d.severity == severity) = ds.filter (·.severity = severity) :=
  List.filter_congr fun d _ => beq_eq_decide d.severity severity

theorem valid_iff_forall (report : Report) :
    report.valid = true ↔ ∀ d ∈ report.diagnostics, d.severity ≠ .error := by
  rw [Report.valid, List.isEmpty_iff, Report.errors, List.map_eq_nil_iff, List.filter_eq_nil_iff]
  refine forall₂_congr fun d _ => ?_
  rw [Diagnostic.isError, beq_iff_eq]

theorem tells_mk (g : Graph) (ds : List Diagnostic) : Tells ⟨ds, g.isChecked⟩ g ds where
  diagnostics_eq := rfl
  errors_eq := congrArg _ (filter_severity_beq ds .error)
  warnings_eq := congrArg _ (filter_severity_beq ds .warning)
  valid_iff := valid_iff_forall _
  checked_iff := Graph.isChecked_iff

/-- There is one report that says this. -/
theorem Tells.eq_mk {report : Report} {g : Graph} {ds : List Diagnostic} (h : report.Tells g ds) :
    report = ⟨ds, g.isChecked⟩ := by
  obtain ⟨diagnostics, checked⟩ := report
  have hdiagnostics : diagnostics = ds := h.diagnostics_eq
  have hchecked : checked = g.isChecked :=
    Bool.eq_iff_iff.2 (h.checked_iff.trans Graph.isChecked_iff.symm)
  rw [hdiagnostics, hchecked]

/-- **The gate loses nothing, and a report says what a run of the checks gives.** A graph that is
kept back has no diagnostics and no fault. There is a report exactly when a run gives diagnostics,
it is the one that tells of them, and otherwise it fails as the run does. -/
theorem of_tells (g : Graph) (settings : Settings) :
    (g.isChecked = false → Check.graph g settings = .ok [])
    ∧ (∀ report, Report.of g settings = .ok report
        ↔ ∃ ds, Check.graph g settings = .ok ds ∧ report.Tells g ds)
    ∧ ∀ fault, Report.of g settings = .error fault ↔ Check.graph g settings = .error fault := by
  refine ⟨Check.graph_of_not_isChecked settings, fun report => ?_, fun fault => ?_⟩
  · rw [of_eq_map, Outcome.map_eq_ok_iff]
    refine exists_congr fun ds => and_congr_right fun _ => ?_
    constructor
    · rintro rfl
      exact tells_mk g ds
    · intro htells
      exact htells.eq_mk.symm
  · rw [of_eq_map]
    cases Check.graph g settings <;> simp [Except.map]

/-- A chain without a model. -/
def loneChain : Node := ⟨some "1", "chain", NodeType.basicChainType, .null, [], [], false, []⟩

/-- An agent that is not at work. -/
def restingAgent : Node := ⟨some "2", "agent", NodeType.agentType, .null, [], [], true, []⟩

/-- The chain makes a workflow invalid. The agent alone opens the gate, and nothing is found. In a
workflow that is neither, the gate stays closed. -/
theorem of_tells_restingAgent :
    (∃ report, Report.of ⟨none, [loneChain, restingAgent], [], []⟩ {} = .ok report
      ∧ report.Tells ⟨none, [loneChain, restingAgent], [], []⟩
          [⟨.error .chainWithoutModel, "Basic LLM Chain", some "1", "chain"⟩]
      ∧ report.valid = false)
    ∧ (∃ report, Report.of ⟨none, [restingAgent], [], []⟩ {} = .ok report
      ∧ report.Tells ⟨none, [restingAgent], [], []⟩ [] ∧ report.checked = true)
    ∧ Graph.isChecked ⟨none, [{ loneChain with type := "n8n-nodes-base.set" }], [], []⟩ = false
    ∧ Check.graph ⟨none, [{ loneChain with type := "n8n-nodes-base.set" }], [], []⟩ {}
      = .ok [] := by
  refine ⟨⟨_, rfl, ?_, rfl⟩, ⟨_, rfl, ?_, rfl⟩, rfl, (of_tells _ _).1 rfl⟩
  · obtain ⟨ds, hrun, htells⟩ :=
      ((of_tells ⟨none, [loneChain, restingAgent], [], []⟩ {}).2.1 _).1 rfl
    cases hrun
    exact htells
  · obtain ⟨ds, hrun, htells⟩ := ((of_tells ⟨none, [restingAgent], [], []⟩ {}).2.1 _).1 rfl
    cases hrun
    exact htells

end Report

end FlowLint
