import FlowLint.Proofs.Check.RequestMethods
import FlowLint.Proofs.Value.Blank

/-!
# Bodies of requests

A request that sends a body has to have one, under either of two keys. An empty body counts as none,
and so does a resource locator that refers to nothing. Locators are not told from payloads: any
mapping with a member `value` is taken for one, with or without the mark, and the other members of
such a payload are lost.

* **`Members.isBlankAt_iff`**: a blank parameter is no body, or it is such a payload.
* **`Check.reports_missing_body_iff`**: a missing body is reported when both parameters are blank.
* **`Check.bodies_exact_iff`**: so the report is right unless it is such a payload that is lost.
-/

namespace FlowLint

/-- The keys of a request under which its body stands. -/
def bodyKeys : List String :=
  ["body", "jsonBody"]

namespace Members

variable {params : Members} {key : String}

/-- There is no body under the key: nothing at all, an empty value, or a locator with the mark that
refers to nothing. -/
def HasNoBodyAt (params : Members) (key : String) : Prop :=
  params.get? key = none ∨ ∃ value, params.get? key = some value
    ∧ (value = .null ∨ value.HoldsNothing ∨ value.IsMarked ∧ value.RefersToNothing)

/-- The body under the key is a mapping without the mark of locators, whose member `value` holds
nothing. It has this member at least. -/
def LosesBodyAt (params : Members) (key : String) : Prop :=
  ∃ value, params.get? key = some value ∧ ¬ value.IsMarked ∧ value.RefersToNothing

/-- A body that is lost is there. -/
theorem LosesBodyAt.not_hasNoBodyAt (h : params.LosesBodyAt key) : ¬ params.HasNoBodyAt key := by
  obtain ⟨value, hvalue, hmark, members, inner, hmembers, hinner, -⟩ := h
  rintro (hnone | ⟨other, hother, hnothing⟩)
  · exact nomatch hvalue.symm.trans hnone
  · obtain rfl : value = other := Option.some.inj (hvalue.symm.trans hother)
    rcases hnothing with rfl | hempty | ⟨hmarked, -⟩
    · exact nomatch hmembers
    · exact Value.not_holdsNothing_of_get? hmembers hinner hempty
    · exact hmark hmarked

/-- **A blank parameter is no body, or it is one that is lost.** -/
theorem isBlankAt_iff : params.IsBlankAt key ↔ params.HasNoBodyAt key ∨ params.LosesBodyAt key := by
  constructor
  · rintro (hnone | ⟨value, hvalue, hnull | hempty | hrefers⟩)
    · exact .inl (.inl hnone)
    · exact .inl (.inr ⟨value, hvalue, .inl hnull⟩)
    · exact .inl (.inr ⟨value, hvalue, .inr (.inl hempty)⟩)
    · -- the mark decides which of the two it is
      by_cases hmark : value.IsMarked
      · exact .inl (.inr ⟨value, hvalue, .inr (.inr ⟨hmark, hrefers⟩)⟩)
      · exact .inr ⟨value, hvalue, hmark, hrefers⟩
  · rintro ((hnone | ⟨value, hvalue, hnothing⟩) | ⟨value, hvalue, -, hrefers⟩)
    · exact .inl hnone
    · have hblank : value = .null ∨ value.HoldsNothing ∨ value.RefersToNothing :=
        hnothing.imp_right (Or.imp_right And.right)
      exact .inr ⟨value, hvalue, hblank⟩
    · exact .inr ⟨value, hvalue, .inr (.inr hrefers)⟩

end Members

namespace Check

variable {ctx : Context} {node : Node} {text : String} {ds : List Diagnostic}

theorem lacksBody_iff :
    Rules.lacksBody node = true ↔ ∀ key ∈ bodyKeys, node.parameters.IsBlankAt key := by
  rw [Rules.lacksBody, Bool.and_eq_true, Param.isBlank_param?_iff, Param.isBlank_param?_iff]
  simp [bodyKeys]

/-- **When a missing body is reported** for a method that sends one: both parameters are blank. -/
theorem reports_missing_body_iff (h : tool ctx .httpRequest node = .ok ds)
    (hmethod : node.parameters.get? "method" = some (.text text))
    (hbody : ∃ method ∈ ["POST", "PUT", "PATCH"], Text.upper text.toList = method.toList) :
    (∃ d ∈ ds, d.code = .missingRequestBody)
      ↔ ∀ key ∈ bodyKeys, node.parameters.IsBlankAt key := by
  have hsends : Rules.requestMethod node ∈ Rules.bodyMethods := by
    obtain ⟨method, hlisted, hupper⟩ := hbody
    rw [Rules.requestMethod_of_text hmethod, hupper]
    exact List.mem_map_of_mem (f := String.toList) hlisted
  rw [misses_body_iff h, and_iff_right hsends, lacksBody_iff]

/-- **Missing bodies are reported rightly, but for payloads taken for locators.** For a method that
sends a body, that one is reported as missing if and only if there is none under either key, unless
both parameters are blank and one of them is a body that is lost. Then one is reported too. -/
theorem bodies_exact_iff (h : tool ctx .httpRequest node = .ok ds)
    (hmethod : node.parameters.get? "method" = some (.text text))
    (hbody : ∃ method ∈ ["POST", "PUT", "PATCH"], Text.upper text.toList = method.toList) :
    (((∃ d ∈ ds, d.code = .missingRequestBody)
        ↔ ∀ key ∈ bodyKeys, node.parameters.HasNoBodyAt key)
      ↔ ¬ ((∀ key ∈ bodyKeys, node.parameters.IsBlankAt key)
        ∧ ∃ key ∈ bodyKeys, node.parameters.LosesBodyAt key))
    ∧ ((∃ d ∈ ds, d.code = .missingRequestBody)
      ↔ ∀ key ∈ bodyKeys,
        node.parameters.HasNoBodyAt key ∨ node.parameters.LosesBodyAt key) := by
  have hreported := reports_missing_body_iff h hmethod hbody
  refine ⟨?_, ?_⟩
  · rw [hreported]
    constructor
    · rintro hsame ⟨hblank, key, hkey, hloses⟩
      exact hloses.not_hasNoBodyAt (hsame.1 hblank key hkey)
    · intro hkept
      constructor
      · intro hblank key hkey
        -- what is blank and not lost is no body
        have hnotLost : ¬ node.parameters.LosesBodyAt key := fun hloses =>
          hkept ⟨hblank, key, hkey, hloses⟩
        exact (Members.isBlankAt_iff.1 (hblank key hkey)).resolve_right hnotLost
      · exact fun hnone key hkey => Members.isBlankAt_iff.2 (.inl (hnone key hkey))
  · rw [hreported]
    exact forall₂_congr fun key _ => Members.isBlankAt_iff

/-- A request with a method and a body. -/
abbrev requestWithBody (method : String) (body : Value) : Node :=
  requestWith [(.text "method", .text method), (.text "body", body)]

theorem exists_tool_requestWithBody (ctx : Context) (method : String) {body : Value}
    (hbody : body.IsJson) :
    ∃ ds, tool ctx .httpRequest (requestWithBody method body) = .ok ds := by
  have hjson : Value.IsJson (.map (requestWithBody method body).parameters) := by
    refine .map ?_ (by simp [requestWith]) ?_
    · simp [requestWith, Members.Distinct, Scalar.sameKey, Scalar.keyNumber?, Scalar.number?]
    · simpa [requestWith] using ⟨Value.IsJson.scalar rfl, Value.IsJson.scalar rfl, hbody⟩
  exact exists_tool_requestWith ctx hjson rfl rfl

/-- A locator that refers to nothing. -/
def emptyLocator : Value :=
  .map [(.text "__rl", .bool true), (.text "value", .text "")]

/-- A payload with a member `value` that is empty, and one that is not. -/
def payload : Value :=
  .map [(.text "value", .text ""), (.text "name", .text "x")]

/-- A locator that refers to nothing is no body, and this is reported. -/
theorem bodies_exact_locator :
    (requestWithBody "put" emptyLocator).parameters.get? "method" = some (.text "put")
    ∧ (∃ method ∈ ["POST", "PUT", "PATCH"], Text.upper "put".toList = method.toList)
    ∧ ∃ ds, tool (.of ⟨none, [], [], []⟩ {}) .httpRequest (requestWithBody "put" emptyLocator)
        = .ok ds
      ∧ ∃ d ∈ ds, d.code = .missingRequestBody := by
  have hbody : ∃ method ∈ ["POST", "PUT", "PATCH"], Text.upper "put".toList = method.toList := by
    decide
  have hnone : ∀ key ∈ bodyKeys,
      (requestWithBody "put" emptyLocator).parameters.HasNoBodyAt key := by
    have hmarked : emptyLocator.IsMarked := ⟨_, rfl, rfl⟩
    have hrefers : emptyLocator.RefersToNothing :=
      ⟨_, _, rfl, rfl, .inr (.inl ⟨"", rfl, by decide⟩)⟩
    simp only [bodyKeys, List.forall_mem_cons]
    refine ⟨?_, ?_, List.forall_mem_nil _⟩
    · exact .inr ⟨emptyLocator, rfl, .inr (.inr ⟨hmarked, hrefers⟩)⟩
    · exact .inl rfl
  have hjson : emptyLocator.IsJson := by
    refine .map ?_ (by simp) ?_
    · simp [Members.Distinct, Scalar.sameKey, Scalar.keyNumber?, Scalar.number?]
    · simpa using ⟨Value.IsJson.scalar rfl, Value.IsJson.scalar rfl⟩
  obtain ⟨ds, hds⟩ := exists_tool_requestWithBody (.of ⟨none, [], [], []⟩ {}) "put" hjson
  have hreported := (bodies_exact_iff hds rfl hbody).2.2 fun key hkey => .inl (hnone key hkey)
  exact ⟨rfl, hbody, ds, hds, hreported⟩

/-- So it is not so that a body is reported only when there is none: a payload is lost. -/
theorem bodies_not_exact_payload :
    ¬ ∀ (ctx : Context) (node : Node) (text : String) (ds : List Diagnostic),
      node.parameters.get? "method" = some (.text text) →
      (∃ method ∈ ["POST", "PUT", "PATCH"], Text.upper text.toList = method.toList) →
      tool ctx .httpRequest node = .ok ds →
      ((∃ d ∈ ds, d.code = .missingRequestBody)
        ↔ ∀ key ∈ bodyKeys, node.parameters.HasNoBodyAt key) := by
  intro hall
  have hbody : ∃ method ∈ ["POST", "PUT", "PATCH"], Text.upper "POST".toList = method.toList := by
    decide
  have hjson : payload.IsJson := by
    refine .map ?_ (by simp) ?_
    · simp [Members.Distinct, Scalar.sameKey, Scalar.keyNumber?, Scalar.number?]
    · simpa using ⟨Value.IsJson.scalar rfl, Value.IsJson.scalar rfl⟩
  obtain ⟨ds, hds⟩ := exists_tool_requestWithBody (.of ⟨none, [], [], []⟩ {}) "POST" hjson
  have hloses : (requestWithBody "POST" payload).parameters.LosesBodyAt "body" := by
    have hmark : ¬ payload.IsMarked := by
      rintro ⟨members, hmembers, hget⟩
      cases hmembers
      exact absurd hget (by simp [Members.get?])
    exact ⟨payload, rfl, hmark, _, _, rfl, rfl, .inr (.inl ⟨"", rfl, by decide⟩)⟩
  have hblank : ∀ key ∈ bodyKeys, (requestWithBody "POST" payload).parameters.IsBlankAt key := by
    simp only [bodyKeys, List.forall_mem_cons]
    refine ⟨?_, ?_, List.forall_mem_nil _⟩
    · exact Members.isBlankAt_iff.2 (.inr hloses)
    · exact .inl rfl
  have hreported := (reports_missing_body_iff hds rfl hbody).2 hblank
  have hnone := (hall _ _ "POST" ds rfl hbody hds).1 hreported
  exact hloses.not_hasNoBodyAt (hnone "body" List.mem_cons_self)

end Check

end FlowLint
