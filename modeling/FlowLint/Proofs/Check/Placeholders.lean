import FlowLint.Proofs.Check.Blocks
import FlowLint.Proofs.Check.Tools

/-!
# Placeholders of a request

A request uses placeholders in its URL, its body and its headers, and defines them in a parameter of
its own. A name that is used and not defined is an error, and names in use without any definitions
are a warning.

* **`Rules.mem_usedPlaceholders_iff`**, **`Rules.mem_definedPlaceholders_iff`**: the names that are
  in use, and those that are defined.
* **`Rules.pairwise_sortedNames`**: names that are sorted come one before the other by their code
  points.
* **`Check.filter_code_tool`**: what the check of a request says of placeholders is what its check
  of placeholders finds.
* **`Check.undefined_placeholders_exact`**: which undefined placeholders are reported, and when the
  definitions are missed.
* **`Check.unused_placeholders_iff`**: which unused placeholders are reported, and when none is.
-/

namespace FlowLint

/-! ## Names -/

/-- The name stands in a text of the request: its URL, its body, or the JSON text of its headers. -/
inductive Node.UsesPlaceholder (node : Node) (name : String) : Prop
  | url {text : String} (stated : node.parameters.get? "url" = some (.text text))
      (found : name ∈ Text.placeholders text.toList)
  | body {text : String} (stated : node.parameters.get? "body" = some (.text text))
      (found : name ∈ Text.placeholders text.toList)
  | headers {value : Value} {text : List Char}
      (stated : node.parameters.param? "headers" = some value)
      (written : Json.write value = .ok text) (found : name ∈ Text.placeholders text)

/-- The definitions have a list of values, and one of them is a mapping with the name. -/
def Value.DefinesPlaceholder (definitions : Value) (name : String) : Prop :=
  ∃ members stated entries entry entryMembers, definitions.members? = some members
    ∧ members.get? "values" = some stated ∧ stated.items? = some entries ∧ entry ∈ entries
    ∧ entry.members? = some entryMembers ∧ entryMembers.get? "name" = some (.text name)

/-- The entry of a list of definitions is a mapping with the name. -/
def Value.NamesPlaceholder (entry : Value) (name : String) : Prop :=
  ∃ members, entry.members? = some members ∧ members.get? "name" = some (.text name)

/-- The definitions have a list of values, one of them has the name, and up to that one no value has
the other name. -/
def Value.DefinesBefore (definitions : Value) (name other : String) : Prop :=
  ∃ members stated front entry back, definitions.members? = some members
    ∧ members.get? "values" = some stated ∧ stated.items? = some (front ++ entry :: back)
    ∧ entry.NamesPlaceholder name
    ∧ ∀ earlier ∈ front ++ [entry], ¬ earlier.NamesPlaceholder other

/-- The text comes before the other one by its code points. -/
def Text.ComesBefore (s t : String) : Prop :=
  List.Lex (fun c d : Char => c.toNat < d.toNat) s.toList t.toList

theorem Text.comesBefore_of_le_of_ne {s t : String} (hle : s ≤ t) (hne : s ≠ t) :
    ComesBefore s t := by
  by_contra hless
  exact hne (String.le_antisymm hle (String.not_lt.1 hless))

namespace Rules

variable {node : Node} {used names : List String} {name : String}

theorem mem_placeholdersOf_iff {key : String} :
    name ∈ placeholdersOf (node.parameters.param? key)
      ↔ ∃ text, node.parameters.get? key = some (.text text)
        ∧ name ∈ Text.placeholders text.toList := by
  simp only [← Param.text?_param?_iff, placeholdersOf]
  cases Param.text? (node.parameters.param? key) <;> simp

/-- **The names in use** are those that stand in a text of the request. -/
theorem mem_usedPlaceholders_iff (h : usedPlaceholders node = .ok used) :
    name ∈ used ↔ node.UsesPlaceholder name := by
  obtain ⟨inHeaders, hheaders, hrest⟩ := Outcome.bind_eq_ok_iff.1 h
  cases hrest
  have hheader : name ∈ inHeaders ↔ ∃ value text, node.parameters.param? "headers" = some value
      ∧ Json.write value = .ok text ∧ name ∈ Text.placeholders text := by
    unfold headerPlaceholders at hheaders
    split at hheaders
    · next hnone =>
      cases hheaders
      simp [hnone]
    · next value hvalue =>
      split at hheaders
      · next text htext =>
        cases hheaders
        simp [hvalue, htext]
      · exact nomatch hheaders
  rw [List.mem_append, List.mem_append, mem_placeholdersOf_iff, mem_placeholdersOf_iff, hheader]
  constructor
  · rintro ((⟨text, hstated, hfound⟩ | ⟨text, hstated, hfound⟩)
      | ⟨value, text, hstated, hwritten, hfound⟩)
    · exact .url hstated hfound
    · exact .body hstated hfound
    · exact .headers hstated hwritten hfound
  · rintro (⟨hstated, hfound⟩ | ⟨hstated, hfound⟩ | ⟨hstated, hwritten, hfound⟩)
    · exact .inl (.inl ⟨_, hstated, hfound⟩)
    · exact .inl (.inr ⟨_, hstated, hfound⟩)
    · exact .inr ⟨_, _, hstated, hwritten, hfound⟩

theorem definedName?_eq_some_iff {entry : Value} :
    definedName? entry = some name
      ↔ ∃ members, entry.members? = some members ∧ members.get? "name" = some (.text name) := by
  have htext : ∀ stated : Option Value, stated.bind Value.text? = some name
      ↔ stated = some (.text name) := fun _ => Param.text?_eq_some_iff
  simp only [definedName?, Option.bind_eq_bind, Option.bind_eq_some_iff, htext]

/-- **The names that are defined** are those of the mappings among the values. -/
theorem mem_definedPlaceholders_iff {definitions : Value} :
    name ∈ definedPlaceholders definitions ↔ definitions.DefinesPlaceholder name := by
  have hlisted : ∀ stated : Option (List Value),
      name ∈ (stated.getD []).filterMap definedName?
        ↔ ∃ entries, stated = some entries ∧ ∃ entry ∈ entries,
          definedName? entry = some name := by
    intro stated
    cases stated <;> simp
  rw [definedPlaceholders, hlisted]
  simp only [Option.bind_eq_some_iff, definedName?_eq_some_iff]
  constructor
  · rintro ⟨entries, ⟨stated, ⟨members, hmembers, hstated⟩, hentries⟩, entry, hentry,
      entryMembers, hentryMembers, hname⟩
    exact ⟨members, stated, entries, entry, entryMembers, hmembers, hstated, hentries, hentry,
      hentryMembers, hname⟩
  · rintro ⟨members, stated, entries, entry, entryMembers, hmembers, hstated, hentries, hentry,
      hentryMembers, hname⟩
    exact ⟨entries, ⟨stated, ⟨members, hmembers, hstated⟩, hentries⟩, entry, hentry,
      entryMembers, hentryMembers, hname⟩

theorem mem_sortedNames_iff : name ∈ sortedNames names ↔ name ∈ names := by
  rw [sortedNames, (List.mergeSort_perm _ _).mem_iff, List.mem_eraseDups]

/-- **Sorted names come one before the other.** -/
theorem pairwise_sortedNames (names : List String) :
    (sortedNames names).Pairwise Text.ComesBefore := by
  have htrans : ∀ s t u : String, decide (s ≤ t) = true → decide (t ≤ u) = true →
      decide (s ≤ u) = true := fun s t u hst htu =>
    decide_eq_true (String.le_trans (of_decide_eq_true hst) (of_decide_eq_true htu))
  have htotal : ∀ s t : String, (decide (s ≤ t) || decide (t ≤ s)) = true := fun s t => by
    simpa only [Bool.or_eq_true, decide_eq_true_eq] using String.le_total s t
  have hsorted := List.pairwise_mergeSort htrans htotal names.eraseDups
  refine (hsorted.and (nodup_sortedNames names)).imp fun h => ?_
  exact Text.comesBefore_of_le_of_ne (of_decide_eq_true h.1) h.2

/-- A name stands in a list, and up to its place the other name does not. -/
def StandsBefore (names : List String) (name other : String) : Prop :=
  ∃ front back, names = front ++ name :: back ∧ other ∉ front ++ [name]

theorem StandsBefore.append {other : String} (h : StandsBefore names name other)
    (more : List String) : StandsBefore (names ++ more) name other := by
  obtain ⟨front, back, rfl, hother⟩ := h
  exact ⟨front, back ++ more, by rw [List.append_assoc, List.cons_append], hother⟩

/-- **Names without repeats are in the order of their first places.** The induction is on the last
name, which is new or leaves the names as they are. -/
theorem pairwise_eraseDups (names : List String) :
    names.eraseDups.Pairwise (StandsBefore names) := by
  induction names using List.reverseRecOn with
  | nil => exact .nil
  | append_singleton names last ih =>
    have hearlier : names.eraseDups.Pairwise (StandsBefore (names ++ [last])) :=
      ih.imp fun h => h.append [last]
    rw [ReverseIndex.eraseDups_concat]
    by_cases hmem : last ∈ names.eraseDups
    · rwa [if_pos hmem]
    · rw [if_neg hmem, List.pairwise_append]
      refine ⟨hearlier, List.pairwise_singleton _ _, fun name hname other hother => ?_⟩
      obtain rfl := List.mem_singleton.1 hother
      obtain ⟨front, back, rfl⟩ := List.append_of_mem (List.mem_eraseDups.1 hname)
      refine ⟨front, back ++ [other], by rw [List.append_assoc, List.cons_append], fun hfront => ?_⟩
      rw [List.mem_eraseDups, List.append_cons] at hmem
      exact hmem (List.mem_append_left back hfront)

/-- The order of the names that are defined is the order of the values that have them. -/
theorem definesBefore_of_standsBefore {definitions : Value} {other : String}
    (h : StandsBefore (definedPlaceholders definitions) name other) :
    definitions.DefinesBefore name other := by
  obtain ⟨front, back, hnames, hother⟩ := h
  rw [definedPlaceholders] at hnames
  cases hstated : (definitions.members?.bind (Members.get? · "values")).bind Value.items? with
  | none =>
    rw [hstated] at hnames
    exact absurd hnames.symm (by simp)
  | some entries =>
    rw [hstated, Option.getD_some] at hnames
    obtain ⟨stated, hvalues, hentries⟩ := Option.bind_eq_some_iff.1 hstated
    obtain ⟨members, hmembers, hget⟩ := Option.bind_eq_some_iff.1 hvalues
    obtain ⟨before, behind, rfl, rfl, hbehind⟩ := List.filterMap_eq_append_iff.1 hnames
    obtain ⟨unnamed, entry, after, rfl, hunnamed, hentry, -⟩ := List.filterMap_eq_cons_iff.1 hbehind
    refine ⟨members, stated, before ++ unnamed, entry, after, hmembers, hget, ?_,
      definedName?_eq_some_iff.1 hentry, fun earlier hearlier hnamed => hother ?_⟩
    · rw [hentries, List.append_assoc]
    · -- an entry with the other name would give it before the name or in its place
      have hsome : definedName? earlier = some other := definedName?_eq_some_iff.2 hnamed
      rw [List.append_assoc, List.mem_append, List.mem_append, List.mem_singleton] at hearlier
      rw [List.mem_append, List.mem_singleton]
      rcases hearlier with hearlier | hearlier | rfl
      · exact .inl (List.mem_filterMap.2 ⟨earlier, hearlier, hsome⟩)
      · exact absurd (hunnamed earlier hearlier) (by simp [hsome])
      · exact .inr (Option.some.inj (hsome.symm.trans hentry))

/-! ## Findings -/

/-- The codes about placeholders. -/
def placeholderCodes : List Code :=
  [.missingPlaceholderDefinitions, .undefinedPlaceholder, .unusedPlaceholder]

theorem filter_code_of_codesIn {codes : List Code} {found : List Finding} {code : Code}
    (h : CodesIn codes found) (hcode : code ∉ codes) : found.filter (·.code = code) = [] :=
  List.filter_eq_nil_iff.2 (List.countP_eq_zero.1 (h.countP_eq_zero hcode))

theorem filter_code_map {make : String → Finding} (code : Code) (names : List String)
    (hcode : ∀ name, (make name).code = code) :
    (names.map make).filter (·.code = code) = names.map make := by
  refine List.filter_eq_self.2 fun f hf => decide_eq_true ?_
  obtain ⟨name, -, rfl⟩ := List.mem_map.1 hf
  exact hcode name

theorem filter_undefined_definitionFindings (defined : List String) :
    (definitionFindings used defined).filter (·.code = .undefinedPlaceholder)
      = (sortedNames (used.filter (!defined.contains ·))).map
          (.error <| .undefinedPlaceholder ·) := by
  have hunused : CodesIn [.unusedPlaceholder]
      ((defined.eraseDups.filter (!used.contains ·)).map (.warning <| .unusedPlaceholder ·)) :=
    codesIn_map _ fun _ => rfl
  rw [definitionFindings, List.filter_append, filter_code_map .undefinedPlaceholder _ fun _ => rfl,
    filter_code_of_codesIn hunused (by decide), List.append_nil]

/-- Without definitions they are missed as soon as a name is in use. -/
theorem placeholderFindings_of_none
    (h : node.parameters.param? "placeholderDefinitions" = none) (used : List String) :
    placeholderFindings node used
      = if used.isEmpty then [] else [.warning .missingPlaceholderDefinitions] := by
  rw [placeholderFindings, h]

/-- With definitions the undefined names are those in use that are not defined. -/
theorem filter_undefined_placeholderFindings {definitions : Value}
    (h : node.parameters.param? "placeholderDefinitions" = some definitions)
    (used : List String) :
    (placeholderFindings node used).filter (·.code = .undefinedPlaceholder)
      = (sortedNames (used.filter (!(definedPlaceholders definitions).contains ·))).map
          (.error <| .undefinedPlaceholder ·) := by
  rw [placeholderFindings, h]
  cases used with
  | nil => simp [sortedNames]
  | cons first rest => exact filter_undefined_definitionFindings _

theorem filter_missing_placeholderFindings {definitions : Value}
    (h : node.parameters.param? "placeholderDefinitions" = some definitions)
    (used : List String) :
    (placeholderFindings node used).filter (·.code = .missingPlaceholderDefinitions) = [] := by
  rw [placeholderFindings, h]
  split
  · rfl
  · have hcodes : CodesIn [.undefinedPlaceholder, .unusedPlaceholder]
        (definitionFindings used (definedPlaceholders definitions)) :=
      AllFound.append_iff.2 ⟨.map _ (by simp), .map _ (by simp)⟩
    exact filter_code_of_codesIn hcodes (by decide)

/-- With definitions and a name in use the unused names are those defined that are not in use. -/
theorem filter_unused_placeholderFindings {definitions : Value}
    (h : node.parameters.param? "placeholderDefinitions" = some definitions) (hused : used ≠ []) :
    (placeholderFindings node used).filter (·.code = .unusedPlaceholder)
      = ((definedPlaceholders definitions).eraseDups.filter (!used.contains ·)).map
          (.warning <| .unusedPlaceholder ·) := by
  have hundefined : CodesIn [.undefinedPlaceholder]
      ((sortedNames (used.filter (!(definedPlaceholders definitions).contains ·))).map
        (.error <| .undefinedPlaceholder ·)) := codesIn_map _ fun _ => rfl
  rw [placeholderFindings, h, if_neg (by simpa using hused)]
  show (definitionFindings used (definedPlaceholders definitions)).filter _ = _
  rw [definitionFindings, List.filter_append, filter_code_of_codesIn hundefined (by decide),
    filter_code_map .unusedPlaceholder _ fun _ => rfl, List.nil_append]

/-- What the check of a request says of placeholders is what its check of placeholders finds. -/
theorem filter_code_httpRequestFindings {settings : Settings} {found : List Finding}
    (h : httpRequestFindings node settings = .ok found) :
    ∃ used, usedPlaceholders node = .ok used ∧ ∀ code ∈ placeholderCodes,
      found.filter (·.code = code) = (placeholderFindings node used).filter (·.code = code) := by
  obtain ⟨-, inUrl, used, hurl, hused, rfl⟩ := httpRequestFindings_eq_ok_iff.1 h
  refine ⟨used, hused, fun code hcode => ?_⟩
  -- no other check of a request gives one of the codes
  have hother : ∀ {codes : List Code} {others : List Finding}, InOrder codes others →
      (∀ c ∈ placeholderCodes, c ∉ codes) → others.filter (·.code = code) = [] :=
    fun horder hnone => filter_code_of_codesIn horder.codesIn (hnone code hcode)
  simp only [List.filter_append, hother (inOrder_descriptionFindings node settings) (by decide),
    hother (inOrder_urlFindings hurl) (by decide),
    hother (inOrder_requestCredentialFindings node) (by decide),
    hother (inOrder_methodFindings (requestMethod node)) (by decide),
    hother (inOrder_bodyFindings node (requestMethod node)) (by decide), List.nil_append,
    List.append_nil]

end Rules

namespace Check

variable {ctx : Context} {node : Node} {ds : List Diagnostic}

/-- What is said of the placeholders of a request. -/
theorem filter_code_tool (h : tool ctx .httpRequest node = .ok ds) :
    ∃ used, Rules.usedPlaceholders node = .ok used ∧ ∀ code ∈ Rules.placeholderCodes,
      ds.filter (·.code = code)
        = node.diagnose ToolKind.httpRequest.label
            ((Rules.placeholderFindings node used).filter (·.code = code)) := by
  obtain ⟨found, hfound, -, rfl⟩ := tool_eq_ok_iff.1 h
  obtain ⟨used, hused, hsame⟩ := Rules.filter_code_httpRequestFindings hfound
  refine ⟨used, hused, fun code hcode => ?_⟩
  have hsaid := filter_diagnose node ToolKind.httpRequest.label found (· = code)
  rw [hsaid, hsame code hcode]

/-- **Undefined placeholders are reported exactly.** Without definitions there is one warning that
they are missing when a name is in use, none otherwise, and no name is told to be undefined. With
definitions of any shape nothing is said to be missing, and of the names in use those that are not
defined are told, each once, one before the other by their code points. -/
theorem undefined_placeholders_exact (h : tool ctx .httpRequest node = .ok ds) :
    (node.parameters.param? "placeholderDefinitions" = none →
      ((∃ name, node.UsesPlaceholder name) →
        ds.filter (·.code = .missingPlaceholderDefinitions)
          = node.diagnose ToolKind.httpRequest.label [.warning .missingPlaceholderDefinitions])
      ∧ ((¬ ∃ name, node.UsesPlaceholder name) →
        ds.filter (·.code = .missingPlaceholderDefinitions) = [])
      ∧ ds.filter (·.code = .undefinedPlaceholder) = [])
    ∧ ∀ definitions, node.parameters.param? "placeholderDefinitions" = some definitions →
      ds.filter (·.code = .missingPlaceholderDefinitions) = []
      ∧ ∃ names : List String, names.Pairwise Text.ComesBefore
        ∧ (∀ name, name ∈ names
          ↔ node.UsesPlaceholder name ∧ ¬ definitions.DefinesPlaceholder name)
        ∧ ds.filter (·.code = .undefinedPlaceholder)
          = node.diagnose ToolKind.httpRequest.label
            (names.map (.error <| .undefinedPlaceholder ·)) := by
  obtain ⟨used, hused, hsame⟩ := filter_code_tool h
  have huses : ∀ name, name ∈ used ↔ node.UsesPlaceholder name := fun _ =>
    Rules.mem_usedPlaceholders_iff hused
  rw [hsame .missingPlaceholderDefinitions (by decide), hsame .undefinedPlaceholder (by decide)]
  refine ⟨fun hnone => ?_, fun definitions hdefinitions => ⟨?_, ?_⟩⟩
  · rw [Rules.placeholderFindings_of_none hnone]
    simp only [← huses]
    cases used with
    | nil => exact ⟨fun ⟨_, hname⟩ => absurd hname List.not_mem_nil, fun _ => rfl, rfl⟩
    | cons first rest =>
      exact ⟨fun _ => rfl, fun hunused => absurd ⟨first, List.mem_cons_self⟩ hunused, rfl⟩
  · rw [Rules.filter_missing_placeholderFindings hdefinitions]
    rfl
  · refine ⟨_, Rules.pairwise_sortedNames _, fun name => ?_,
      by rw [Rules.filter_undefined_placeholderFindings hdefinitions]⟩
    rw [Rules.mem_sortedNames_iff, List.mem_filter, huses, Bool.not_eq_true',
      ← Bool.not_eq_true, List.contains_iff_mem, Rules.mem_definedPlaceholders_iff]

/-- A request that uses two placeholders and defines one of them, and another that it does not use.
-/
def filledRequest : Node where
  id := none
  name := "fetch"
  type := "nodes-langchain.toolHttpRequest"
  typeVersion := .null
  parameters :=
    [(.text "url", .text "http://a.b/\x7bid\x7d"),
      (.text "body", .text "\x7b\x7bx\x7d\x7d\x7b_n\x7d\x7bid\x7d"),
      (.text "placeholderDefinitions", definitions)]
  credentials := []
  disabled := false
  extra := []
where
  definitions : Value :=
    .map [(.text "values",
      .list [.null, .map [(.text "name", .text "_n")], .map [(.text "name", .text "x")]])]

theorem filledRequest.usedPlaceholders_eq :
    Rules.usedPlaceholders filledRequest = .ok ["id", "_n", "id"] := by
  have hurl : Text.stripExpressions "http://a.b/\x7bid\x7d".toList
      = "http://a.b/\x7bid\x7d".toList := by
    simp [Text.stripExpressions]
  -- the expression is cut from the body first
  have hcut : Text.afterClosing? "x\x7d\x7d\x7b_n\x7d\x7bid\x7d".toList
      = some "\x7b_n\x7d\x7bid\x7d".toList := rfl
  have hbody : Text.stripExpressions "\x7b\x7bx\x7d\x7d\x7b_n\x7d\x7bid\x7d".toList
      = "\x7b_n\x7d\x7bid\x7d".toList := by
    refine (Text.stripExpressions_of_afterClosing hcut).trans ?_
    simp [Text.stripExpressions]
  show Except.ok (Text.placeholders "http://a.b/\x7bid\x7d".toList
    ++ Text.placeholders "\x7b\x7bx\x7d\x7d\x7b_n\x7d\x7bid\x7d".toList ++ []) = _
  rw [Text.placeholders, Text.placeholders, hurl, hbody]
  rfl

/-- What is told of the request. -/
def filledRequest.told : List Diagnostic :=
  filledRequest.diagnose ToolKind.httpRequest.label
    [.error (.undefinedPlaceholder "id"), .warning (.unusedPlaceholder "x")]

theorem filledRequest.tool_eq (ctx : Context) : tool ctx .httpRequest filledRequest = .ok told := by
  have hsorted : Rules.sortedNames ["id", "id"] = ["id"] := by
    simp [Rules.sortedNames, show ["id", "id"].eraseDups = ["id"] from rfl]
  have hplaceholders : Rules.placeholderFindings filledRequest ["id", "_n", "id"]
      = [.error (.undefinedPlaceholder "id"), .warning (.unusedPlaceholder "x")] := by
    show (Rules.sortedNames ["id", "id"]).map (Finding.error <| .undefinedPlaceholder ·)
      ++ [Finding.warning (.unusedPlaceholder "x")] = _
    rw [hsorted]
    rfl
  have hfound : Rules.httpRequestFindings filledRequest ctx.settings
      = .ok [.error (.undefinedPlaceholder "id"), .warning (.unusedPlaceholder "x")] := by
    refine Rules.httpRequestFindings_eq_ok_iff.2
      ⟨List.forall_mem_nil _, [], _, rfl, usedPlaceholders_eq, ?_⟩
    rw [hplaceholders]
    rfl
  show Rules.httpRequestFindings filledRequest ctx.settings >>= _ = _
  rw [hfound]
  rfl

/-- The name that is used twice and not defined is told once, and no definitions are missing. -/
theorem undefined_placeholders_exact_filledRequest :
    tool (.of ⟨none, [filledRequest], [], []⟩ {}) .httpRequest filledRequest
        = .ok filledRequest.told
    ∧ filledRequest.told.filter (·.code = .missingPlaceholderDefinitions) = []
    ∧ ∃ names : List String, names.Pairwise Text.ComesBefore
      ∧ (∀ name, name ∈ names
        ↔ filledRequest.UsesPlaceholder name ∧ ¬ filledRequest.definitions.DefinesPlaceholder name)
      ∧ filledRequest.told.filter (·.code = .undefinedPlaceholder)
        = filledRequest.diagnose ToolKind.httpRequest.label
            (names.map (.error <| .undefinedPlaceholder ·)) := by
  have htold := filledRequest.tool_eq (.of ⟨none, [filledRequest], [], []⟩ {})
  exact ⟨htold, (undefined_placeholders_exact htold).2 filledRequest.definitions rfl⟩

/-- **Unused placeholders are reported exactly, once some placeholder is in use.** Of the names that
are defined those that are not in use are told, each once, in the order of their first definitions,
if and only if a name is in use or there is nothing to tell. When no name is in use, none is
told. -/
theorem unused_placeholders_iff (h : tool ctx .httpRequest node = .ok ds) {definitions : Value}
    (hdefinitions : node.parameters.param? "placeholderDefinitions" = some definitions) :
    ∃ names : List String, names.Pairwise definitions.DefinesBefore
      ∧ (∀ name, name ∈ names
        ↔ definitions.DefinesPlaceholder name ∧ ¬ node.UsesPlaceholder name)
      ∧ (ds.filter (·.code = .unusedPlaceholder)
          = node.diagnose ToolKind.httpRequest.label
            (names.map (.warning <| .unusedPlaceholder ·))
        ↔ (∃ name, node.UsesPlaceholder name) ∨ names = [])
      ∧ ((¬ ∃ name, node.UsesPlaceholder name) →
        ds.filter (·.code = .unusedPlaceholder) = []) := by
  obtain ⟨used, hused, hsame⟩ := filter_code_tool h
  have huses : ∀ name, name ∈ used ↔ node.UsesPlaceholder name := fun _ =>
    Rules.mem_usedPlaceholders_iff hused
  have hnone : used = [] ↔ ¬ ∃ name, node.UsesPlaceholder name := by
    simp only [← huses, List.eq_nil_iff_forall_not_mem, not_exists]
  rw [hsame .unusedPlaceholder (by decide)]
  refine ⟨(Rules.definedPlaceholders definitions).eraseDups.filter (!used.contains ·), ?_,
    fun name => ?_, ?_, ?_⟩
  · exact ((Rules.pairwise_eraseDups _).imp Rules.definesBefore_of_standsBefore).filter _
  · rw [List.mem_filter, List.mem_eraseDups, Rules.mem_definedPlaceholders_iff, Bool.not_eq_true',
      ← Bool.not_eq_true, List.contains_iff_mem, huses]
  · by_cases hempty : used = []
    · -- nothing is found, so there is something missing unless there is nothing to tell
      subst hempty
      rw [Rules.placeholderFindings, if_pos List.isEmpty_nil]
      simp only [hnone.1 rfl, false_or]
      exact ⟨fun hsame => List.map_eq_nil_iff.1 (List.map_eq_nil_iff.1 hsame.symm),
        fun hnames => by rw [hnames]; rfl⟩
    · rw [Rules.filter_unused_placeholderFindings hdefinitions hempty]
      exact iff_of_true rfl (.inl (not_not.1 (mt hnone.2 hempty)))
  · intro hunused
    rw [hnone.2 hunused]
    rfl

/-- The name that is defined and not used is told where others are in use. -/
theorem unused_placeholders_filledRequest :
    tool (.of ⟨none, [filledRequest], [], []⟩ {}) .httpRequest filledRequest
        = .ok filledRequest.told
    ∧ filledRequest.parameters.param? "placeholderDefinitions" = some filledRequest.definitions
    ∧ ∃ names : List String, names.Pairwise filledRequest.definitions.DefinesBefore
      ∧ (∀ name, name ∈ names
        ↔ filledRequest.definitions.DefinesPlaceholder name ∧ ¬ filledRequest.UsesPlaceholder name)
      ∧ (filledRequest.told.filter (·.code = .unusedPlaceholder)
          = filledRequest.diagnose ToolKind.httpRequest.label
            (names.map (.warning <| .unusedPlaceholder ·))
        ↔ (∃ name, filledRequest.UsesPlaceholder name) ∨ names = [])
      ∧ ((¬ ∃ name, filledRequest.UsesPlaceholder name) →
        filledRequest.told.filter (·.code = .unusedPlaceholder) = []) := by
  have htold := filledRequest.tool_eq (.of ⟨none, [filledRequest], [], []⟩ {})
  exact ⟨htold, rfl, unused_placeholders_iff htold rfl⟩

/-- A request without placeholders that defines one. -/
def idleRequest : Node where
  id := none
  name := "fetch"
  type := "nodes-langchain.toolHttpRequest"
  typeVersion := .null
  parameters := [(.text "url", .text "http://a.b"), (.text "placeholderDefinitions", definitions)]
  credentials := []
  disabled := false
  extra := []
where
  definitions : Value := .map [(.text "values", .list [.map [(.text "name", .text "x")]])]

theorem idleRequest.usedPlaceholders_eq : Rules.usedPlaceholders idleRequest = .ok [] := by
  have hurl : Text.stripExpressions "http://a.b".toList = "http://a.b".toList := by
    simp [Text.stripExpressions]
  show Except.ok (Text.placeholders "http://a.b".toList ++ [] ++ []) = _
  rw [Text.placeholders, hurl]
  rfl

theorem idleRequest.tool_eq (ctx : Context) : tool ctx .httpRequest idleRequest = .ok [] := by
  have hfound : Rules.httpRequestFindings idleRequest ctx.settings = .ok [] :=
    Rules.httpRequestFindings_eq_ok_iff.2
      ⟨List.forall_mem_nil _, [], _, rfl, usedPlaceholders_eq, rfl⟩
  show Rules.httpRequestFindings idleRequest ctx.settings >>= _ = _
  rw [hfound]
  rfl

/-- So it is not so that every name that is defined and not used is told. -/
theorem unused_placeholders_not_told :
    ¬ ∀ (ctx : Context) (node : Node) (ds : List Diagnostic) (definitions : Value),
      tool ctx .httpRequest node = .ok ds →
      node.parameters.param? "placeholderDefinitions" = some definitions →
      ∃ names : List String, names.Pairwise definitions.DefinesBefore
        ∧ (∀ name, name ∈ names
          ↔ definitions.DefinesPlaceholder name ∧ ¬ node.UsesPlaceholder name)
        ∧ ds.filter (·.code = .unusedPlaceholder)
          = node.diagnose ToolKind.httpRequest.label
            (names.map (.warning <| .unusedPlaceholder ·)) := by
  intro hall
  obtain ⟨names, -, hnames, htold⟩ := hall (.of ⟨none, [idleRequest], [], []⟩ {}) idleRequest []
    idleRequest.definitions (idleRequest.tool_eq _) rfl
  have hdefined : idleRequest.definitions.DefinesPlaceholder "x" :=
    ⟨_, _, _, _, _, rfl, rfl, rfl, List.mem_singleton_self _, rfl, rfl⟩
  have hunused : ¬ idleRequest.UsesPlaceholder "x" := fun hused =>
    absurd ((Rules.mem_usedPlaceholders_iff idleRequest.usedPlaceholders_eq).2 hused)
      List.not_mem_nil
  have hmem : "x" ∈ names := (hnames "x").2 ⟨hdefined, hunused⟩
  obtain rfl : names = [] := List.map_eq_nil_iff.1 (List.map_eq_nil_iff.1 htold.symm)
  exact absurd hmem List.not_mem_nil

end Check

end FlowLint
