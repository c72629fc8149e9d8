import FlowLint.Proofs.Check.Faults

/-!
# What the check of a tool says

The diagnostics of a tool are its findings, when all of them can be worded. What the diagnostics
say with some code is what is found with that code, so a statement about them can be settled on the
findings of the one check that has the code.

* **`Check.tool_eq_ok_iff`**: what the check of a tool gives.
* **`Check.exists_tool_iff`**: when it gives anything.
* **`Check.forall_code_ne_iff`**, **`Check.filter_diagnose`**: the codes of diagnostics are
  those of findings.
-/

namespace FlowLint.Check

variable {ctx : Context} {kind : ToolKind} {node : Node} {ds : List Diagnostic}

/-- **The check of a tool says what is found in it**, when all of it can be worded. -/
theorem tool_eq_ok_iff :
    tool ctx kind node = .ok ds
      ↔ ∃ found, Rules.toolKindFindings kind node ctx.settings = .ok found ∧ Wordable found
        ∧ ds = node.diagnose kind.label found := by
  constructor
  · intro h
    obtain ⟨found, hfound, hreport⟩ := Outcome.bind_eq_ok_iff.1 h
    obtain ⟨worded, hworded, rfl⟩ := Outcome.map_eq_ok_iff.1 hreport
    obtain ⟨hwordable, rfl⟩ := Rules.worded_eq_ok_iff.1 hworded
    exact ⟨worded, hfound, hwordable, rfl⟩
  · rintro ⟨found, hfound, hwordable, rfl⟩
    have hworded : Rules.worded found = .ok found := Rules.worded_eq_ok_iff.2 ⟨hwordable, rfl⟩
    exact Outcome.bind_eq_ok_iff.2 ⟨found, hfound, Outcome.map_eq_ok_iff.2 ⟨found, hworded, rfl⟩⟩

theorem exists_tool_iff :
    (∃ ds, tool ctx kind node = .ok ds)
      ↔ ∃ found, Rules.toolKindFindings kind node ctx.settings = .ok found ∧ Wordable found := by
  constructor
  · rintro ⟨ds, hds⟩
    obtain ⟨found, hfound, hwordable, -⟩ := tool_eq_ok_iff.1 hds
    exact ⟨found, hfound, hwordable⟩
  · rintro ⟨found, hfound, hwordable⟩
    exact ⟨_, tool_eq_ok_iff.2 ⟨found, hfound, hwordable, rfl⟩⟩

/-! ## Codes -/

theorem exists_code_iff (label : String) (found : List Finding) (code : Code) :
    (∃ d ∈ node.diagnose label found, d.code = code) ↔ Finds found code := by
  constructor
  · rintro ⟨d, hd, hcode⟩
    obtain ⟨f, hf, rfl⟩ := mem_diagnose_iff.1 hd
    exact ⟨f, hf, hcode⟩
  · rintro ⟨f, hf, hcode⟩
    exact ⟨⟨f, label, node.id, node.name⟩, mem_diagnose_iff.2 ⟨f, hf, rfl⟩, hcode⟩

/-- Nothing is said with a code when nothing is found with it. -/
theorem forall_code_ne_iff (label : String) (found : List Finding) (code : Code) :
    (∀ d ∈ node.diagnose label found, d.code ≠ code) ↔ ¬ Finds found code := by
  rw [← exists_code_iff label]
  push Not
  rfl

/-- The diagnostics whose code has a property are those of the findings whose code has it. -/
theorem filter_diagnose (node : Node) (label : String) (found : List Finding) (P : Code → Prop)
    [DecidablePred P] :
    (node.diagnose label found).filter (P ·.code)
      = node.diagnose label (found.filter (P ·.code)) := by
  rw [Node.diagnose, Node.diagnose, List.filter_map]
  rfl

end FlowLint.Check
