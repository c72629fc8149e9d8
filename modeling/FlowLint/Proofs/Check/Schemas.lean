import FlowLint.Proofs.Check.Tools
import FlowLint.Proofs.Value.Blank

/-!
# Input schemas

The check of a code tool looks at the input schema in three ways, one after the other: it can be
blank, it can be a text that is no JSON object, and it can be fine. These cases exclude each other
and leave nothing out, whatever value the schema is.

* **`Rules.schemaVerdict`**: what is found of a schema in each of the cases.
* **`Rules.filter_schemaCodes_codeFindings`**: no other check of the tool finds the same.
* **`Check.input_schema_exact`**: what is said of a schema.
-/

namespace FlowLint

/-- The codes about an input schema. -/
def schemaCodes : List Code :=
  [.missingInputSchema, .invalidInputSchema, .noInputSchema]

namespace Node

variable {node : Node}

/-- The input schema is absent, null or empty, or refers to nothing. -/
def HasBlankSchema (node : Node) : Prop :=
  node.parameters.IsBlankAt "inputSchema"

/-- The input schema is not blank and, when it is a text, a JSON reader reads an object from it. -/
def HasSchema (node : Node) : Prop :=
  ¬ node.HasBlankSchema ∧ ∀ text, node.parameters.get? "inputSchema" = some (.text text) →
    ∃ members, Json.read text.toList = .ok (.map members)

/-- The node asks for an input schema, with the literal true. -/
def AsksSchema (node : Node) : Prop :=
  node.parameters.get? "specifyInputSchema" = some (.bool true)

/-- What is found of an input schema. -/
inductive SchemaVerdict (node : Node) : List Finding → Prop
  | missing (blank : node.HasBlankSchema) (asked : node.AsksSchema) :
    SchemaVerdict node [.error .missingInputSchema]
  | unasked (blank : node.HasBlankSchema) (asked : ¬ node.AsksSchema) :
    SchemaVerdict node [.warning .noInputSchema]
  | invalid (there : ¬ node.HasBlankSchema) (bad : ¬ node.HasSchema) :
    SchemaVerdict node [.error .invalidInputSchema]
  | fine (good : node.HasSchema) : SchemaVerdict node []

end Node

namespace Rules

variable {node : Node} {settings : Settings} {found : List Finding}

theorem asksSchema_iff :
    Param.isTrue (node.parameters.param? "specifyInputSchema") = true ↔ node.AsksSchema := by
  rw [Param.isTrue_iff, Members.param?_eq_some_iff]
  exact and_iff_left_of_imp fun _ => by simp

theorem hasBlankSchema_iff :
    Param.isBlank (node.parameters.param? "inputSchema") = true ↔ node.HasBlankSchema :=
  Param.isBlank_param?_iff

/-- A text is blank as a parameter when its characters are. -/
theorem hasBlankSchema_iff_of_text {text : String}
    (h : Param.text? (node.parameters.param? "inputSchema") = some text) :
    node.HasBlankSchema ↔ Text.allBlank text.toList = true := by
  rw [← hasBlankSchema_iff, param?_eq_text_of_text? h]
  rfl

/-! ## The three cases -/

theorem schemaFindings_of_blank (h : node.HasBlankSchema) :
    schemaFindings node
      = .ok (if Param.isTrue (node.parameters.param? "specifyInputSchema") then
          [.error .missingInputSchema] else [.warning .noInputSchema]) := by
  have hblank : Param.isBlank (node.parameters.param? "inputSchema") = true :=
    hasBlankSchema_iff.2 h
  -- whether or not the schema is a text, there are no characters to look into
  have htext : Text.allBlank
      ((Param.text? (node.parameters.param? "inputSchema")).getD "").toList = true := by
    cases hsome : Param.text? (node.parameters.param? "inputSchema") with
    | none => decide
    | some text => exact (hasBlankSchema_iff_of_text hsome).1 h
  simp only [schemaFindings, hblank, htext]
  by_cases hasked : Param.isTrue (node.parameters.param? "specifyInputSchema") = true
  · simp [hasked]
  · simp [hasked]

theorem schemaFindings_of_text (h : ¬ node.HasBlankSchema) {text : String}
    (htext : Param.text? (node.parameters.param? "inputSchema") = some text) :
    schemaFindings node = schemaTextFindings text.toList := by
  have hblank : ¬ Param.isBlank (node.parameters.param? "inputSchema") = true :=
    mt hasBlankSchema_iff.1 h
  have hchars : ¬ Text.allBlank text.toList = true := mt (hasBlankSchema_iff_of_text htext).2 h
  simp [schemaFindings, hblank, htext, hchars]

theorem schemaFindings_of_other (h : ¬ node.HasBlankSchema)
    (htext : Param.text? (node.parameters.param? "inputSchema") = none) :
    schemaFindings node = .ok [] := by
  have hblank : ¬ Param.isBlank (node.parameters.param? "inputSchema") = true :=
    mt hasBlankSchema_iff.1 h
  simp [schemaFindings, hblank, htext, Text.allBlank]

/-- A text that is looked into is an object or is not. -/
theorem schemaTextFindings_cases {cs : List Char} (h : schemaTextFindings cs = .ok found) :
    (∃ members, Json.read cs = .ok (.map members)) ∧ found = []
      ∨ (¬ ∃ members, Json.read cs = .ok (.map members))
        ∧ found = [.error .invalidInputSchema] := by
  unfold schemaTextFindings Json.isObject at h
  split at h
  · next isObject hobject =>
    cases h
    split at hobject
    · next members hread =>
      obtain rfl := Except.ok.inj hobject
      exact .inl ⟨⟨members, hread⟩, rfl⟩
    · exact nomatch hobject
    · next hother _ =>
      obtain rfl := Except.ok.inj hobject
      exact .inr ⟨fun ⟨members, hread⟩ => hother members hread, rfl⟩
  · exact nomatch h

/-- **What is found of a schema**, case by case. -/
theorem schemaVerdict (h : schemaFindings node = .ok found) : node.SchemaVerdict found := by
  by_cases hblank : node.HasBlankSchema
  · rw [schemaFindings_of_blank hblank, Except.ok.injEq] at h
    subst h
    split
    · next hasked => exact .missing hblank (asksSchema_iff.1 hasked)
    · next hasked => exact .unasked hblank (mt asksSchema_iff.2 hasked)
  · cases htext : Param.text? (node.parameters.param? "inputSchema") with
    | none =>
      rw [schemaFindings_of_other hblank htext, Except.ok.injEq] at h
      subst h
      refine .fine ⟨hblank, fun text hsome => ?_⟩
      exact nomatch htext.symm.trans (Param.text?_param?_iff.2 hsome)
    | some text =>
      rw [schemaFindings_of_text hblank htext] at h
      have hsame : node.parameters.get? "inputSchema" = some (.text text) :=
        Param.text?_param?_iff.1 htext
      rcases schemaTextFindings_cases h with ⟨hobject, rfl⟩ | ⟨hobject, rfl⟩
      · refine .fine ⟨hblank, fun other hother => ?_⟩
        obtain ⟨rfl⟩ : text = other := by simpa using hsame.symm.trans hother
        exact hobject
      · exact .invalid hblank fun hgood => hobject (hgood.2 text hsame)

/-- What the check of a code tool says of schemas is what its check of the schema finds. -/
theorem filter_schemaCodes_codeFindings (h : codeFindings node settings = .ok found) :
    schemaFindings node = .ok (found.filter (·.code ∈ schemaCodes)) := by
  obtain ⟨-, inSchema, hschema, rfl⟩ := codeFindings_eq_ok_iff.1 h
  have hdescribed := (inOrder_descriptionFindings node settings).codesIn
  have hcode := (inOrder_codeTextFindings node).codesIn
  have hall : CodesIn schemaCodes inSchema := (inOrder_schemaFindings hschema).codesIn
  -- the two checks in front have other codes
  rw [hschema, List.filter_append, List.filter_append,
    hdescribed.filter_eq_nil schemaCodes (by decide),
    hcode.filter_eq_nil schemaCodes (by decide), hall.filter_eq_self]
  rfl

end Rules

namespace Check

variable {ctx : Context} {node : Node} {ds : List Diagnostic}

/-- The check gives diagnostics unless the schema is nested too deep, or a threshold without a
decimal text would have to be shown. -/
theorem exists_code_tool_iff :
    (∃ ds, tool ctx .code node = .ok ds)
      ↔ ¬ node.HasDeepSchema
        ∧ ¬ (node.HasShortDescription ctx.settings.minToolDescriptionLength.value
          ∧ IsLong ctx.settings.minToolDescriptionLength.value) := by
  rw [exists_tool_iff, ← Rules.wordable_descriptionFindings_iff, and_comm]
  exact Rules.exists_codeFindings_iff

/-- What is said of the schema of a code tool. -/
theorem exists_schemaVerdict (h : tool ctx .code node = .ok ds) :
    ∃ inSchema, node.SchemaVerdict inSchema
      ∧ ds.filter (·.code ∈ schemaCodes) = node.diagnose ToolKind.code.label inSchema := by
  obtain ⟨found, hfound, -, rfl⟩ := tool_eq_ok_iff.1 h
  have hschema := Rules.filter_schemaCodes_codeFindings hfound
  exact ⟨_, Rules.schemaVerdict hschema, filter_diagnose node _ found (· ∈ schemaCodes)⟩

/-- **Exactly one thing is said of a schema that is blank or bad, and nothing of any other.** The
check gives diagnostics unless the schema is nested too deep or a threshold that cannot be written
would have to be shown. At most one of them is about the schema, and none is when there is a schema,
an object if it is a text. A blank schema is missing when it is asked for with the literal true; any
other blank schema is only noted; and a text that is no object is invalid. -/
theorem input_schema_exact (ctx : Context) (node : Node) :
    ((∃ ds, tool ctx .code node = .ok ds)
      ↔ ¬ node.HasDeepSchema
        ∧ ¬ (node.HasShortDescription ctx.settings.minToolDescriptionLength.value
          ∧ IsLong ctx.settings.minToolDescriptionLength.value))
    ∧ ∀ ds, tool ctx .code node = .ok ds →
      (ds.filter (·.code ∈ schemaCodes)).length ≤ 1
      ∧ (ds.filter (·.code ∈ schemaCodes) = [] ↔ node.HasSchema)
      ∧ (node.HasBlankSchema →
        (ds.filter (·.code ∈ schemaCodes)
            = node.diagnose ToolKind.code.label [.error .missingInputSchema] ↔ node.AsksSchema)
        ∧ (ds.filter (·.code ∈ schemaCodes)
            = node.diagnose ToolKind.code.label [.warning .noInputSchema] ↔ ¬ node.AsksSchema))
      ∧ (¬ node.HasBlankSchema → ¬ node.HasSchema →
        ds.filter (·.code ∈ schemaCodes)
          = node.diagnose ToolKind.code.label [.error .invalidInputSchema]) := by
  refine ⟨exists_code_tool_iff, fun ds hds => ?_⟩
  obtain ⟨inSchema, hverdict, hsaid⟩ := exists_schemaVerdict hds
  rw [hsaid]
  -- one finding gives one diagnostic, and the kinds of findings are told apart by it
  have hsome : ∀ f : Finding, node.diagnose ToolKind.code.label [f] ≠ [] := fun f =>
    List.cons_ne_nil _ _
  have hapart : node.diagnose ToolKind.code.label [.error .missingInputSchema]
      ≠ node.diagnose ToolKind.code.label [.warning .noInputSchema] := by
    simp [Node.diagnose]
  cases hverdict with
  | missing blank asked =>
    have hnone : ¬ node.HasSchema := fun hgood => hgood.1 blank
    refine ⟨le_refl 1, iff_of_false (hsome _) hnone, fun _ => ⟨?_, ?_⟩, absurd blank⟩
    · exact iff_of_true rfl asked
    · exact iff_of_false hapart (not_not_intro asked)
  | unasked blank asked =>
    have hnone : ¬ node.HasSchema := fun hgood => hgood.1 blank
    refine ⟨le_refl 1, iff_of_false (hsome _) hnone, fun _ => ⟨?_, ?_⟩, absurd blank⟩
    · exact iff_of_false hapart.symm asked
    · exact iff_of_true rfl asked
  | invalid there bad =>
    refine ⟨le_refl 1, iff_of_false (hsome _) bad, ?_, fun _ _ => rfl⟩
    exact fun blank => absurd blank there
  | fine good =>
    refine ⟨Nat.zero_le 1, iff_of_true rfl good, ?_, ?_⟩
    · exact fun blank => absurd blank good.1
    · exact fun _ bad => absurd good bad

/-- A code tool whose schema refers to blanks, with the number one where true would ask for it. -/
def referringTool : Node where
  id := none
  name := "run"
  type := "nodes-langchain.toolCode"
  typeVersion := .null
  parameters := [(.text "specifyInputSchema", .int 1), (.text "inputSchema", reference)]
  credentials := []
  disabled := false
  extra := []
where
  reference : Value := .map [(.text "value", .text " ")]

/-- That schema is blank, and it is not asked for. -/
theorem input_schema_exact_reference :
    ∃ ds, tool (.of ⟨none, [], [], []⟩ {}) .code referringTool = .ok ds
      ∧ ds.filter (·.code ∈ schemaCodes)
        = referringTool.diagnose ToolKind.code.label [.warning .noInputSchema] := by
  obtain ⟨hreturns, hexact⟩ := input_schema_exact (.of ⟨none, [], [], []⟩ {}) referringTool
  have hrefers : referringTool.reference.RefersToNothing :=
    ⟨_, _, rfl, rfl, .inr (.inl ⟨" ", rfl, by decide⟩)⟩
  have hblank : referringTool.HasBlankSchema := .inr ⟨_, rfl, .inr (.inr hrefers)⟩
  have hasked : ¬ referringTool.AsksSchema := by
    intro hone
    have hsame : some (Value.int 1) = some (.bool true) := hone
    exact nomatch hsame
  -- the schema is no text, and the description is not written by hand
  have hdeep : ¬ referringTool.HasDeepSchema := by
    rintro ⟨text, htext, -⟩
    have hsame : some referringTool.reference = some (.text text) := htext
    exact nomatch hsame
  have hreturned : ∃ ds, tool (.of ⟨none, [], [], []⟩ {}) .code referringTool = .ok ds := by
    apply hreturns.2
    refine ⟨hdeep, ?_⟩
    rintro ⟨⟨hmanual, -⟩, -⟩
    exact nomatch hmanual
  obtain ⟨ds, hds⟩ := hreturned
  exact ⟨ds, hds, ((hexact ds hds).2.2.1 hblank).2.2 hasked⟩

end Check

end FlowLint
