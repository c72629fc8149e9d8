import FlowLint.Proofs.Check.Tools
import FlowLint.Proofs.Text.Capitals

/-!
# Methods of requests

The method of a request is compared in capitals, so letters of either case are accepted. The capital
forms are those of all characters and not of ASCII only, and some characters beyond ASCII turn into
letters of a method: a few words are taken for a method that are none.

* **`upper_eq_method_iff`**: which texts have a method as their capital form. The words beyond ASCII
  among them are listed (`methodLookalikes`).
* **`Rules.finds_requestEnd_iff`**: what the last two checks of a request find is what is told of
  its method and its body.
* **`Check.accepts_method_iff`**, **`Check.misses_body_iff`**: when a method is accepted, and when a
  body is missed.
* **`Check.methods_exact_iff`**: methods are told apart by their letters, but for those words.
-/

namespace FlowLint

/-! ## Capital forms of methods -/

/-- The texts are the same up to the case of ASCII letters. -/
def Text.SameLetters (s t : String) : Prop :=
  s.toList.map Char.toUpper = t.toList.map Char.toUpper

instance (s t : String) : Decidable (Text.SameLetters s t) :=
  inferInstanceAs (Decidable (_ = _))

/-- Words beyond ASCII whose capital form is a method, with that method: dotless i, long s, and the
two ligatures of s and t. -/
def methodLookalikes : List (String × String) :=
  [("POſT", "POST"), ("POﬅ", "POST"), ("POﬆ", "POST"), ("OPTIONſ", "OPTIONS"),
    ("OPTıONS", "OPTIONS"), ("OPTıONſ", "OPTIONS")]

/-- The text is one of the words beyond ASCII that have the method as their capital form, up to the
case of ASCII letters. -/
def Text.LooksLike (s method : String) : Prop :=
  ∃ word, (word, method) ∈ methodLookalikes ∧ Text.SameLetters s word

/-- The texts that are spelled like a method: the method itself and the words beyond ASCII. -/
theorem spellings_method : ∀ method ∈ httpMethods,
    Text.spellings method.toList
      = method.toList
        :: (methodLookalikes.filter (·.2 = method)).map fun entry => entry.1.toList := by
  simp only [httpMethods, List.forall_mem_cons]
  refine ⟨?_, ?_, ?_, ?_, ?_, ?_, ?_, List.forall_mem_nil _⟩
  all_goals simp [Text.spellings, Text.asciiForms, methodLookalikes]

/-- **The texts that have a method as their capital form.** -/
theorem upper_eq_method_iff {text method : String} (h : method ∈ httpMethods) :
    Text.upper text.toList = method.toList
      ↔ Text.SameLetters text method ∨ Text.LooksLike text method := by
  have hall : ∀ method ∈ httpMethods, method.toList.all (·.toNat < 0x80) = true := by decide
  have hascii : ∀ d ∈ method.toList, d.toNat < 0x80 := by simpa using hall method h
  have hcapital : ∀ method ∈ httpMethods, method.toList.map Char.toUpper = method.toList := by
    decide
  have hwords : ∀ entry ∈ methodLookalikes,
      entry.1.toList.map Char.toUpper = entry.1.toList := by decide
  rw [Text.upper_eq_iff hascii, spellings_method method h, List.mem_cons]
  refine or_congr ?_ ?_
  · rw [Text.SameLetters, hcapital method h]
  · rw [List.mem_map]
    constructor
    · rintro ⟨⟨word, other⟩, hentry, hword⟩
      obtain ⟨hlisted, hsame⟩ := List.mem_filter.1 hentry
      obtain rfl : other = method := of_decide_eq_true hsame
      refine ⟨word, hlisted, ?_⟩
      rw [Text.SameLetters, hwords _ hlisted]
      exact hword.symm
    · rintro ⟨word, hlisted, hsame⟩
      rw [Text.SameLetters, hwords _ hlisted] at hsame
      exact ⟨(word, method), List.mem_filter.2 ⟨hlisted, decide_eq_true rfl⟩, hsame.symm⟩

/-- Only the empty text has an empty capital form. -/
theorem upper_eq_nil_iff {text : String} : Text.upper text.toList = [] ↔ text = "" := by
  have hempty : Text.spellings [] = [[]] := by rw [Text.spellings]
  rw [Text.upper_eq_iff (List.forall_mem_nil _), hempty, List.mem_singleton, List.map_eq_nil_iff,
    String.toList_eq_nil_iff]

/-- A word beyond ASCII has not the letters of a method. -/
theorem Text.LooksLike.not_sameLetters {text method other : String}
    (h : Text.LooksLike text method) (hother : other ∈ httpMethods) :
    ¬ Text.SameLetters text other := by
  have hapart : ∀ entry ∈ methodLookalikes, ∀ other ∈ httpMethods,
      ¬ Text.SameLetters entry.1 other := by decide
  obtain ⟨word, hlisted, hsame⟩ := h
  intro hletters
  exact hapart _ hlisted other hother (hsame.symm.trans hletters)

theorem Text.LooksLike.mem_httpMethods {text method : String} (h : Text.LooksLike text method) :
    method ∈ httpMethods := by
  have hmethods : ∀ entry ∈ methodLookalikes, entry.2 ∈ httpMethods := by decide
  obtain ⟨word, hlisted, -⟩ := h
  exact hmethods _ hlisted

theorem Text.LooksLike.ne_empty {text method : String} (h : Text.LooksLike text method) :
    text ≠ "" := by
  have hwords : ∀ entry ∈ methodLookalikes, ¬ Text.SameLetters "" entry.1 := by decide
  obtain ⟨word, hlisted, hsame⟩ := h
  rintro rfl
  exact hwords _ hlisted hsame

/-- A text has one capital form, so it looks like one method only. -/
theorem Text.LooksLike.unique {text method other : String} (h : Text.LooksLike text method)
    (hother : Text.LooksLike text other) : method = other := by
  have hmethod := (upper_eq_method_iff h.mem_httpMethods).2 (.inr h)
  have hagain := (upper_eq_method_iff hother.mem_httpMethods).2 (.inr hother)
  exact String.toList_inj.1 (hmethod.symm.trans hagain)

/-- Of the methods that send a body, only one has words that look like it. -/
theorem Text.LooksLike.eq_post_of_body {text method : String} (h : Text.LooksLike text method)
    (hbody : method ∈ ["POST", "PUT", "PATCH"]) : method = "POST" := by
  have hentries : ∀ entry ∈ methodLookalikes,
      entry.2 ∈ ["POST", "PUT", "PATCH"] → entry.2 = "POST" := by decide
  obtain ⟨word, hlisted, -⟩ := h
  exact hentries _ hlisted hbody

namespace Rules

variable {node : Node} {settings : Settings} {text : String}

/-! ## The checks of method and body -/

theorem requestMethod_of_text (h : node.parameters.get? "method" = some (.text text)) :
    requestMethod node = Text.upper text.toList := by
  have htext : Param.text? (node.parameters.param? "method") = some text :=
    Param.text?_param?_iff.2 h
  rw [requestMethod, htext]

theorem finds_invalidHttpMethod_iff {method : List Char} :
    Finds (methodFindings method) .invalidHttpMethod
      ↔ ¬ (method = [] ∨ ∃ known ∈ httpMethods, method = known.toList) := by
  have hknown : (httpMethods.map String.toList).contains method = true
      ↔ ∃ known ∈ httpMethods, method = known.toList := by
    rw [List.contains_iff_mem, List.mem_map]
    exact exists_congr fun known => and_congr_right fun _ => eq_comm
  rw [not_or, ← hknown, methodFindings]
  exact Finds.ite_singleton_iff

theorem finds_missingRequestBody_iff {method : List Char} :
    Finds (bodyFindings node method) .missingRequestBody
      ↔ method ∈ bodyMethods ∧ lacksBody node = true := by
  rw [← List.contains_iff_mem, ← Bool.and_eq_true, bodyFindings]
  exact Finds.ite_singleton_iff

/-- The codes of what is told of a request before its method. -/
def requestFrontCodes : List Code :=
  descriptionCodes ++ [.missingUrl, .invalidUrlProtocol, .invalidUrlFormat]
    ++ [.missingPlaceholderDefinitions, .undefinedPlaceholder, .unusedPlaceholder]
    ++ [.missingCredentials]

/-- **What a request is told of its method and its body** is what the last two checks find. -/
theorem finds_requestEnd_iff {found : List Finding}
    (h : httpRequestFindings node settings = .ok found) :
    (Finds found .invalidHttpMethod
        ↔ Finds (methodFindings (requestMethod node)) .invalidHttpMethod)
      ∧ (Finds found .missingRequestBody
        ↔ Finds (bodyFindings node (requestMethod node)) .missingRequestBody) := by
  obtain ⟨-, inUrl, used, hurl, -, rfl⟩ := httpRequestFindings_eq_ok_iff.1 h
  have hdescribed := (inOrder_descriptionFindings node settings).codesIn
  have hplaceholders := codesIn_placeholderFindings node used
  have hcredentials := (inOrder_requestCredentialFindings node).codesIn
  have hmethod := (inOrder_methodFindings (requestMethod node)).codesIn
  have hbody := (inOrder_bodyFindings node (requestMethod node)).codesIn
  -- the four checks in front have other codes
  have hfront : CodesIn requestFrontCodes (descriptionFindings node settings ++ inUrl
      ++ placeholderFindings node used ++ requestCredentialFindings node) := by
    simp only [AllFound.append_iff]
    refine ⟨⟨⟨?_, ?_⟩, ?_⟩, ?_⟩
    · exact hdescribed.mono (by decide)
    · exact (inOrder_urlFindings hurl).codesIn.mono (by decide)
    · exact hplaceholders.mono (by decide)
    · exact hcredentials.mono (by decide)
  constructor
  · rw [Finds.append_iff_left hbody (by decide), Finds.append_iff_right hfront (by decide)]
  · rw [List.append_assoc, Finds.append_iff_right hfront (by decide),
      Finds.append_iff_right hmethod (by decide)]

end Rules

namespace Check

variable {ctx : Context} {node : Node} {text : String} {ds : List Diagnostic}

/-- **When a method is accepted**: it is empty, or its capital form is a known method. -/
theorem accepts_method_iff (h : tool ctx .httpRequest node = .ok ds) :
    (∀ d ∈ ds, d.code ≠ .invalidHttpMethod)
      ↔ Rules.requestMethod node = []
        ∨ ∃ method ∈ httpMethods, Rules.requestMethod node = method.toList := by
  obtain ⟨found, hfound, -, rfl⟩ := tool_eq_ok_iff.1 h
  have hmethod := (Rules.finds_requestEnd_iff hfound).1
  rw [forall_code_ne_iff, hmethod, Rules.finds_invalidHttpMethod_iff, not_not]

/-- **When a body is missed**: the method is one with a body, and there is none. -/
theorem misses_body_iff (h : tool ctx .httpRequest node = .ok ds) :
    (∃ d ∈ ds, d.code = .missingRequestBody)
      ↔ Rules.requestMethod node ∈ Rules.bodyMethods ∧ Rules.lacksBody node = true := by
  obtain ⟨found, hfound, -, rfl⟩ := tool_eq_ok_iff.1 h
  have hbody := (Rules.finds_requestEnd_iff hfound).2
  rw [exists_code_iff, hbody, Rules.finds_missingRequestBody_iff]

/-- What is accepted among the texts: no text at all, the methods in letters of either case, and
the words that look like them. -/
theorem accepts_text_iff (h : tool ctx .httpRequest node = .ok ds)
    (hmethod : node.parameters.get? "method" = some (.text text)) :
    (∀ d ∈ ds, d.code ≠ .invalidHttpMethod)
      ↔ (text = "" ∨ ∃ method ∈ httpMethods, Text.SameLetters text method)
        ∨ ∃ method, Text.LooksLike text method := by
  have hcapital : (∃ method ∈ httpMethods, Text.upper text.toList = method.toList)
      ↔ (∃ method ∈ httpMethods, Text.SameLetters text method)
        ∨ ∃ method, Text.LooksLike text method := by
    constructor
    · rintro ⟨method, hknown, hupper⟩
      rcases (upper_eq_method_iff hknown).1 hupper with hsame | hlooks
      · exact .inl ⟨method, hknown, hsame⟩
      · exact .inr ⟨method, hlooks⟩
    · rintro (⟨method, hknown, hsame⟩ | ⟨method, hlooks⟩)
      · exact ⟨method, hknown, (upper_eq_method_iff hknown).2 (.inl hsame)⟩
      · have hknown := hlooks.mem_httpMethods
        exact ⟨method, hknown, (upper_eq_method_iff hknown).2 (.inr hlooks)⟩
  rw [accepts_method_iff h, Rules.requestMethod_of_text hmethod, upper_eq_nil_iff, hcapital,
    or_assoc]

/-- The texts that miss a body: the methods that send one, and the words that look like one of
them. -/
theorem text_misses_body_iff (h : tool ctx .httpRequest node = .ok ds)
    (hmethod : node.parameters.get? "method" = some (.text text)) :
    (∃ d ∈ ds, d.code = .missingRequestBody)
      ↔ (∃ method ∈ ["POST", "PUT", "PATCH"],
          Text.SameLetters text method ∨ Text.LooksLike text method)
        ∧ Rules.lacksBody node = true := by
  have hknown : ["POST", "PUT", "PATCH"] ⊆ httpMethods := by decide
  have hbodies : Rules.bodyMethods = ["POST", "PUT", "PATCH"].map String.toList := rfl
  rw [misses_body_iff h, Rules.requestMethod_of_text hmethod, hbodies, List.mem_map]
  refine and_congr_left fun _ => exists_congr fun method => and_congr_right fun hbody => ?_
  rw [← upper_eq_method_iff (hknown hbody)]
  exact eq_comm

/-- The methods of requests are told apart by their letters of either case: those that are known are
accepted, and a body is missed for the three that send one only. -/
structure KeepsMethods (text : String) (ds : List Diagnostic) : Prop where
  accepted_iff : (∀ d ∈ ds, d.code ≠ .invalidHttpMethod)
    ↔ text = "" ∨ ∃ method ∈ httpMethods, Text.SameLetters text method
  body : (∀ method ∈ ["POST", "PUT", "PATCH"], ¬ Text.SameLetters text method) →
    ∀ d ∈ ds, d.code ≠ .missingRequestBody

/-- **Methods are told apart by their letters, but for a few words beyond ASCII.** The words that
look like a method are accepted, and those that look like POST miss a body; for all other texts the
methods are told apart. -/
theorem methods_exact_iff (h : tool ctx .httpRequest node = .ok ds)
    (hmethod : node.parameters.get? "method" = some (.text text)) :
    (KeepsMethods text ds ↔ ¬ ∃ method, Text.LooksLike text method)
    ∧ ∀ method, Text.LooksLike text method →
      (∀ d ∈ ds, d.code ≠ .invalidHttpMethod)
      ∧ ((∃ d ∈ ds, d.code = .missingRequestBody)
        ↔ method = "POST" ∧ Rules.lacksBody node = true) := by
  have haccepted := accepts_text_iff h hmethod
  have hmisses := text_misses_body_iff h hmethod
  refine ⟨⟨?_, ?_⟩, ?_⟩
  · rintro hkeeps ⟨method, hlooks⟩
    -- the word is accepted, but is neither empty nor a method
    have htold := hkeeps.accepted_iff.1 (haccepted.2 (.inr ⟨method, hlooks⟩))
    rcases htold with hempty | ⟨other, hknown, hsame⟩
    · exact hlooks.ne_empty hempty
    · exact hlooks.not_sameLetters hknown hsame
  · intro hnone
    refine ⟨haccepted.trans (or_iff_left hnone), fun hother d hd hcode => ?_⟩
    obtain ⟨⟨method, hbody, hsame | hlooks⟩, -⟩ := hmisses.1 ⟨d, hd, hcode⟩
    · exact hother method hbody hsame
    · exact hnone ⟨method, hlooks⟩
  · intro method hlooks
    have hknown : ["POST", "PUT", "PATCH"] ⊆ httpMethods := by decide
    refine ⟨haccepted.2 (.inr ⟨method, hlooks⟩), hmisses.trans (and_congr_left fun _ => ?_)⟩
    constructor
    · rintro ⟨other, hbody, hsame | hother⟩
      · exact absurd hsame (hlooks.not_sameLetters (hknown hbody))
      · obtain rfl := hlooks.unique hother
        exact hlooks.eq_post_of_body hbody
    · rintro rfl
      exact ⟨"POST", List.mem_cons_self, .inr hlooks⟩

/-- A request to a fixed address, with more parameters. -/
def requestWith (members : Members) : Node where
  id := none
  name := "fetch"
  type := "nodes-langchain.toolHttpRequest"
  typeVersion := .null
  parameters := (.text "url", .text "http://a.b") :: members
  credentials := []
  disabled := false
  extra := []

/-- The check of such a request gives diagnostics, when its description is not written by hand and
it has no headers. -/
theorem exists_tool_requestWith (ctx : Context) {members : Members}
    (hjson : Value.IsJson (.map (requestWith members).parameters))
    (hmanual : members.get? "descriptionType" = none) (hheaders : members.get? "headers" = none) :
    ∃ ds, tool ctx .httpRequest (requestWith members) = .ok ds := by
  have hdescribed : Wordable (Rules.descriptionFindings (requestWith members) ctx.settings) := by
    rw [Rules.wordable_descriptionFindings_iff]
    rintro ⟨⟨hsome, -⟩, -⟩
    exact absurd (hmanual.symm.trans hsome) (by simp)
  have hwhole : ¬ (requestWith members).HasBrokenUrl := Rules.exists_urlFindings_iff.1 ⟨[], rfl⟩
  have hshallow : ¬ (requestWith members).HasDeepHeaders := by
    rintro ⟨value, hvalue, -⟩
    exact nomatch hheaders.symm.trans (Members.param?_eq_some_iff.1 hvalue).1
  exact exists_tool_iff.2
    ((Rules.exists_httpRequestFindings_iff hjson).2 ⟨hdescribed, not_or.2 ⟨hwhole, hshallow⟩⟩)

/-- The request has a method. -/
abbrev requestBy (method : String) : Node :=
  requestWith [(.text "method", .text method)]

theorem exists_tool_requestBy (ctx : Context) (method : String) :
    ∃ ds, tool ctx .httpRequest (requestBy method) = .ok ds := by
  have hjson : Value.IsJson (.map (requestBy method).parameters) := by
    refine .map ?_ (by simp [requestWith]) ?_
    · simp [requestWith, Members.Distinct, Scalar.sameKey, Scalar.keyNumber?, Scalar.number?]
    · simpa [requestWith] using ⟨Value.IsJson.scalar rfl, Value.IsJson.scalar rfl⟩
  exact exists_tool_requestWith ctx hjson rfl rfl

/-- Letters of either case make a method, and nothing is said of it. -/
theorem methods_exact_mixed :
    (requestBy "oPTIONS").parameters.get? "method" = some (.text "oPTIONS")
    ∧ ∃ ds, tool (.of ⟨none, [], [], []⟩ {}) .httpRequest (requestBy "oPTIONS") = .ok ds
      ∧ KeepsMethods "oPTIONS" ds := by
  have hsame : Text.SameLetters "oPTIONS" "OPTIONS" := by decide
  have hnone : ¬ ∃ method, Text.LooksLike "oPTIONS" method := fun ⟨_, hlooks⟩ =>
    hlooks.not_sameLetters (by decide) hsame
  obtain ⟨ds, hds⟩ := exists_tool_requestBy (.of ⟨none, [], [], []⟩ {}) "oPTIONS"
  exact ⟨rfl, ds, hds, (methods_exact_iff hds rfl).1.2 hnone⟩

/-- So it is not so that methods are told apart: a word with a long s is accepted. -/
theorem methods_not_exact_long_s :
    ¬ ∀ (ctx : Context) (node : Node) (text : String) (ds : List Diagnostic),
      node.parameters.get? "method" = some (.text text) →
      tool ctx .httpRequest node = .ok ds → KeepsMethods text ds := by
  intro hall
  obtain ⟨ds, hds⟩ := exists_tool_requestBy (.of ⟨none, [], [], []⟩ {}) "poſt"
  have hkeeps : KeepsMethods "poſt" ds := hall _ (requestBy "poſt") "poſt" ds rfl hds
  have hlooks : Text.LooksLike "poſt" "POST" := ⟨"POſT", by decide, by decide⟩
  have haccepted : ∀ d ∈ ds, d.code ≠ .invalidHttpMethod :=
    (accepts_text_iff hds rfl).2 (.inr ⟨"POST", hlooks⟩)
  rcases hkeeps.accepted_iff.1 haccepted with hempty | ⟨method, hknown, hsame⟩
  · exact hlooks.ne_empty hempty
  · exact hlooks.not_sameLetters hknown hsame

end Check

end FlowLint
