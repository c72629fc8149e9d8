import FlowLint.Proofs.Check.Tools

/-!
# Languages

The check of an encyclopedia tool takes a language for a language code when it follows a small
grammar, and also when one line feed stands behind such a code.

* **`Text.IsLanguageCode`**: the grammar.
* **`Rules.isLanguageTag_iff`**: the program cuts a text at its hyphens and looks at the parts, and
  the texts that pass are those of the grammar.
* **`Rules.isLanguageCode_iff`**: what the program takes for a language code.
* **`Check.languages_exact_iff`**: the languages that are refused are those outside the grammar,
  but for the codes with a line feed behind them.
-/

namespace FlowLint

/-! ## The grammar -/

namespace Text

/-- A language code: the word simple, or two or three letters from a to z and behind them any number
of parts, each a hyphen with two to eight letters or digits. -/
inductive IsLanguageCode : List Char → Prop
  | simple : IsLanguageCode "simple".toList
  | tagged {first : List Char} {parts : List (List Char)}
      (first_length : first.length = 2 ∨ first.length = 3)
      (first_chars : ∀ c ∈ first, 'a' ≤ c ∧ c ≤ 'z')
      (part_length : ∀ part ∈ parts, 2 ≤ part.length ∧ part.length ≤ 8)
      (part_chars : ∀ part ∈ parts, ∀ c ∈ part, ('a' ≤ c ∧ c ≤ 'z') ∨ ('0' ≤ c ∧ c ≤ '9')) :
      IsLanguageCode (first ++ parts.flatMap ('-' :: ·))

/-- A language code with one line feed behind it. -/
def IsLanguageLine (cs : List Char) : Prop :=
  ∃ code, IsLanguageCode code ∧ cs = code ++ ['\n']

/-- No language code holds a line feed: all its characters are letters, digits and hyphens. -/
theorem IsLanguageCode.not_mem_newline {cs : List Char} (h : IsLanguageCode cs) : '\n' ∉ cs := by
  have hletter : ¬ ('a' ≤ '\n' ∧ '\n' ≤ 'z') := by decide
  have hdigit : ¬ ('0' ≤ '\n' ∧ '\n' ≤ '9') := by decide
  cases h with
  | simple => decide
  | tagged _ first_chars _ part_chars =>
    intro hmem
    rcases List.mem_append.1 hmem with hmem | hmem
    · exact hletter (first_chars _ hmem)
    · obtain ⟨part, hpart, hmem⟩ := List.mem_flatMap.1 hmem
      rcases List.mem_cons.1 hmem with hhyphen | hmem
      · exact absurd hhyphen (by decide)
      · exact (part_chars part hpart _ hmem).elim hletter hdigit

/-- So a text that ends in a line feed is no language code. -/
theorem IsLanguageLine.not_isLanguageCode {cs : List Char} (h : IsLanguageLine cs) :
    ¬ IsLanguageCode cs := by
  obtain ⟨code, -, rfl⟩ := h
  intro hcode
  apply hcode.not_mem_newline
  exact List.mem_append_right code (List.mem_singleton_self '\n')

end Text

namespace Rules

theorem isSmallLetter_iff {c : Char} : isSmallLetter c = true ↔ 'a' ≤ c ∧ c ≤ 'z' := by
  rw [isSmallLetter, Bool.and_eq_true, decide_eq_true_eq, decide_eq_true_eq]

theorem isPrimaryTag_iff {cs : List Char} :
    isPrimaryTag cs = true
      ↔ (cs.length = 2 ∨ cs.length = 3) ∧ ∀ c ∈ cs, 'a' ≤ c ∧ c ≤ 'z' := by
  have hlength : (2 ≤ cs.length ∧ cs.length ≤ 3) ↔ cs.length = 2 ∨ cs.length = 3 := by omega
  rw [isPrimaryTag, Bool.and_eq_true, Bool.and_eq_true, decide_eq_true_eq, decide_eq_true_eq,
    hlength, List.all_eq_true]
  simp only [isSmallLetter_iff]

theorem isSubtag_iff {cs : List Char} :
    isSubtag cs = true
      ↔ (2 ≤ cs.length ∧ cs.length ≤ 8)
        ∧ ∀ c ∈ cs, ('a' ≤ c ∧ c ≤ 'z') ∨ ('0' ≤ c ∧ c ≤ '9') := by
  rw [isSubtag, Bool.and_eq_true, Bool.and_eq_true, decide_eq_true_eq, decide_eq_true_eq,
    List.all_eq_true]
  simp only [Bool.or_eq_true, isSmallLetter_iff, isDigit, Bool.and_eq_true, decide_eq_true_eq]

/-! ## Texts cut at their hyphens

A text of the grammar is cut where its parts begin, as neither the letters in front nor the parts
hold a hyphen; and a text that is cut is made of its parts again. -/

theorem not_mem_hyphen_of_isPrimaryTag {cs : List Char} (h : isPrimaryTag cs = true) :
    '-' ∉ cs := by
  intro hmem
  have hletter : 'a' ≤ '-' ∧ '-' ≤ 'z' := (isPrimaryTag_iff.1 h).2 '-' hmem
  exact absurd hletter (by decide)

theorem not_mem_hyphen_of_isSubtag {cs : List Char} (h : isSubtag cs = true) : '-' ∉ cs := by
  intro hmem
  have hchar := (isSubtag_iff.1 h).2 '-' hmem
  exact absurd hchar (by decide)

/-- A text is the word simple, or its parts are what they should be. -/
theorem isLanguageTag_iff_parts {cs : List Char} :
    isLanguageTag cs = true
      ↔ cs = "simple".toList ∨ ∃ first parts, Text.splitAll '-' cs = first :: parts
        ∧ isPrimaryTag first = true ∧ ∀ part ∈ parts, isSubtag part = true := by
  obtain ⟨first, parts, hsplit⟩ := List.exists_cons_of_ne_nil (Text.splitAll_ne_nil '-' cs)
  rw [isLanguageTag, hsplit]
  simp

/-- The parts of a text are what they should be when the text is made of such parts. -/
theorem exists_parts_iff {cs : List Char} :
    (∃ first parts, Text.splitAll '-' cs = first :: parts ∧ isPrimaryTag first = true
        ∧ ∀ part ∈ parts, isSubtag part = true)
      ↔ ∃ (first : List Char) (parts : List (List Char)), isPrimaryTag first = true
        ∧ (∀ part ∈ parts, isSubtag part = true) ∧ cs = first ++ parts.flatMap ('-' :: ·) := by
  constructor
  · rintro ⟨first, parts, hsplit, hfirst, hparts⟩
    exact ⟨first, parts, hfirst, hparts, (Text.append_of_splitAll hsplit).symm⟩
  · rintro ⟨first, parts, hfirst, hparts, rfl⟩
    have hsplit : Text.splitAll '-' (first ++ parts.flatMap ('-' :: ·)) = first :: parts :=
      Text.splitAll_flatMap (not_mem_hyphen_of_isPrimaryTag hfirst)
        fun part hpart => not_mem_hyphen_of_isSubtag (hparts part hpart)
    exact ⟨first, parts, hsplit, hfirst, hparts⟩

/-- **The texts that pass are those of the grammar.** -/
theorem isLanguageTag_iff {cs : List Char} :
    isLanguageTag cs = true ↔ Text.IsLanguageCode cs := by
  rw [isLanguageTag_iff_parts, exists_parts_iff]
  constructor
  · rintro (rfl | ⟨first, parts, hfirst, hparts, rfl⟩)
    · exact .simple
    · have hletters := isPrimaryTag_iff.1 hfirst
      have hsubtags := fun part hpart => isSubtag_iff.1 (hparts part hpart)
      exact .tagged hletters.1 hletters.2 (fun part hpart => (hsubtags part hpart).1)
        fun part hpart => (hsubtags part hpart).2
  · intro h
    cases h with
    | simple => exact .inl rfl
    | @tagged first parts first_length first_chars part_length part_chars =>
      have hfirst : isPrimaryTag first = true := isPrimaryTag_iff.2 ⟨first_length, first_chars⟩
      have hparts : ∀ part ∈ parts, isSubtag part = true := fun part hpart =>
        isSubtag_iff.2 ⟨part_length part hpart, part_chars part hpart⟩
      exact .inr ⟨first, parts, hfirst, hparts, rfl⟩

/-- **What is taken for a language code**: a language code, with or without a line feed. -/
theorem isLanguageCode_iff {cs : List Char} :
    isLanguageCode cs = true ↔ Text.IsLanguageCode cs ∨ Text.IsLanguageLine cs := by
  have hline : (cs.getLast? == some '\n' && isLanguageTag cs.dropLast) = true
      ↔ Text.IsLanguageLine cs := by
    rw [Bool.and_eq_true, beq_iff_eq, isLanguageTag_iff, List.getLast?_eq_some_iff]
    constructor
    · rintro ⟨⟨code, rfl⟩, hcode⟩
      rw [List.dropLast_concat] at hcode
      exact ⟨code, hcode, rfl⟩
    · rintro ⟨code, hcode, rfl⟩
      refine ⟨⟨code, rfl⟩, ?_⟩
      rwa [List.dropLast_concat]
  rw [isLanguageCode, Bool.or_eq_true, isLanguageTag_iff, hline]

/-! ## The check -/

variable {node : Node} {text : String}

/-- What is found of a language that is a text and not blank. -/
theorem languageFindings_of_text
    (hlanguage : node.parameters.get? "language" = some (.text text))
    (hblank : Text.allBlank text.toList = false) :
    languageFindings node
      = if isLanguageCode text.toList then []
        else [.error (.invalidLanguageCode (.text text))] := by
  have hparam : node.parameters.param? "language" = some (.text text) :=
    Members.param?_eq_some_iff.2 ⟨hlanguage, by simp⟩
  have hnotBlank : Param.isBlank (some (.text text)) = false := hblank
  rw [languageFindings, hparam]
  dsimp only
  rw [hnotBlank]
  rfl

theorem finds_invalidLanguageCode_iff
    (hlanguage : node.parameters.get? "language" = some (.text text))
    (hblank : Text.allBlank text.toList = false) :
    Finds (languageFindings node) .invalidLanguageCode
      ↔ ¬ (Text.IsLanguageCode text.toList ∨ Text.IsLanguageLine text.toList) := by
  rw [languageFindings_of_text hlanguage hblank, ← isLanguageCode_iff, ← ite_not]
  exact Finds.ite_singleton_iff (f := .error (.invalidLanguageCode (.text text)))

/-- A text can be shown, whatever it is. -/
theorem wordable_languageFindings_of_text
    (hlanguage : node.parameters.get? "language" = some (.text text))
    (hblank : Text.allBlank text.toList = false) : Wordable (languageFindings node) := by
  have hshown : (Finding.error (.invalidLanguageCode (.text text))).isWritable = true := rfl
  rw [languageFindings_of_text hlanguage hblank]
  split
  · exact .nil _
  · exact AllFound.singleton_iff.2 hshown

end Rules

namespace Check

variable {ctx : Context} {node : Node} {text : String} {ds : List Diagnostic}

/-- The check gives diagnostics unless it would have to show a threshold without a decimal text. -/
theorem exists_wikipedia_iff
    (hlanguage : node.parameters.get? "language" = some (.text text))
    (hblank : Text.allBlank text.toList = false) :
    (∃ ds, tool ctx .wikipedia node = .ok ds)
      ↔ ¬ (node.HasShortDescription ctx.settings.minToolDescriptionLength.value
        ∧ IsLong ctx.settings.minToolDescriptionLength.value) := by
  have hworded := Rules.wordable_languageFindings_of_text hlanguage hblank
  rw [exists_tool_iff, ← Rules.wordable_descriptionFindings_iff]
  constructor
  · rintro ⟨found, hfound, hwordable⟩
    cases hfound
    exact (AllFound.append_iff.1 hwordable).1
  · intro hdescribed
    exact ⟨_, rfl, AllFound.append_iff.2 ⟨hdescribed, hworded⟩⟩

/-- What is said of a language. -/
theorem forall_ne_invalidLanguageCode_iff (h : tool ctx .wikipedia node = .ok ds)
    (hlanguage : node.parameters.get? "language" = some (.text text))
    (hblank : Text.allBlank text.toList = false) :
    (∀ d ∈ ds, d.code ≠ .invalidLanguageCode)
      ↔ Text.IsLanguageCode text.toList ∨ Text.IsLanguageLine text.toList := by
  obtain ⟨found, hfound, -, rfl⟩ := tool_eq_ok_iff.1 h
  cases hfound
  have hdescribed := (Rules.inOrder_descriptionFindings node ctx.settings).codesIn
  rw [forall_code_ne_iff, Finds.append_iff_right hdescribed (by decide),
    Rules.finds_invalidLanguageCode_iff hlanguage hblank, not_not]

/-- **Languages are refused by their grammar, but for a line feed behind them.** Of a tool whose
language is a text that is not blank: the check gives diagnostics unless its description is too
short for a threshold that cannot be written; and that the language is accepted if and only if it is
a language code holds unless it is one with a line feed behind it, which is accepted too. -/
theorem languages_exact_iff (ctx : Context)
    (hlanguage : node.parameters.get? "language" = some (.text text))
    (hblank : Text.allBlank text.toList = false) :
    ((∃ ds, tool ctx .wikipedia node = .ok ds)
      ↔ ¬ (node.HasShortDescription ctx.settings.minToolDescriptionLength.value
        ∧ IsLong ctx.settings.minToolDescriptionLength.value))
    ∧ ∀ ds, tool ctx .wikipedia node = .ok ds →
      (((∀ d ∈ ds, d.code ≠ .invalidLanguageCode) ↔ Text.IsLanguageCode text.toList)
        ↔ ¬ Text.IsLanguageLine text.toList)
      ∧ (Text.IsLanguageLine text.toList → ∀ d ∈ ds, d.code ≠ .invalidLanguageCode) := by
  refine ⟨exists_wikipedia_iff hlanguage hblank, fun ds hds => ?_⟩
  rw [forall_ne_invalidLanguageCode_iff hds hlanguage hblank]
  refine ⟨?_, .inr⟩
  by_cases hline : Text.IsLanguageLine text.toList
  · -- it is accepted, and it is no language code
    have hnot := hline.not_isLanguageCode
    exact iff_of_false (fun hsame => hnot (hsame.1 (.inr hline))) fun hnone => hnone hline
  · exact iff_of_true (or_iff_left hline) hline

/-- An encyclopedia tool with a language. -/
def languageNode (language : String) : Node where
  id := none
  name := "lookup"
  type := "nodes-langchain.toolWikipedia"
  typeVersion := .null
  parameters := [(.text "language", .text language)]
  credentials := []
  disabled := false
  extra := []

/-- Letters with two parts behind them are a language code, and nothing is said of them. -/
theorem languages_exact_parts :
    (languageNode "zh-min-nan").parameters.get? "language" = some (.text "zh-min-nan")
    ∧ Text.allBlank "zh-min-nan".toList = false
    ∧ Text.IsLanguageCode "zh-min-nan".toList
    ∧ ∃ ds, tool (.of ⟨none, [], [], []⟩ {}) .wikipedia (languageNode "zh-min-nan") = .ok ds
      ∧ ∀ d ∈ ds, d.code ≠ .invalidLanguageCode := by
  have hcode : Text.IsLanguageCode "zh-min-nan".toList :=
    Rules.isLanguageTag_iff.1 (by decide)
  have hline : ¬ Text.IsLanguageLine "zh-min-nan".toList := fun hline =>
    hline.not_isLanguageCode hcode
  obtain ⟨hreturns, hexact⟩ := languages_exact_iff (.of ⟨none, [], [], []⟩ {})
    (show (languageNode "zh-min-nan").parameters.get? "language" = some (.text "zh-min-nan") from
      rfl) (by decide)
  -- the description is not written by hand, so it is not too short
  have hdescribed : ∃ ds,
      tool (.of ⟨none, [], [], []⟩ {}) .wikipedia (languageNode "zh-min-nan") = .ok ds := by
    apply hreturns.2
    rintro ⟨⟨hmanual, -⟩, -⟩
    exact nomatch hmanual
  obtain ⟨ds, hds⟩ := hdescribed
  exact ⟨rfl, by decide, hcode, ds, hds, ((hexact ds hds).1.2 hline).2 hcode⟩

/-- So it is not so that only language codes are accepted. -/
theorem languages_not_exact_line :
    ¬ ∀ (ctx : Context) (node : Node) (text : String) (ds : List Diagnostic),
      node.parameters.get? "language" = some (.text text) → Text.allBlank text.toList = false →
      tool ctx .wikipedia node = .ok ds →
      ((∀ d ∈ ds, d.code ≠ .invalidLanguageCode) ↔ Text.IsLanguageCode text.toList) := by
  intro hall
  have hnothing : tool (.of ⟨none, [], [], []⟩ {}) .wikipedia (languageNode "en\n") = .ok [] := rfl
  have hsame := hall _ (languageNode "en\n") "en\n" [] rfl (by decide) hnothing
  have hcode : Text.IsLanguageCode "en\n".toList := hsame.1 (List.forall_mem_nil _)
  exact hcode.not_mem_newline (by decide)

end Check

end FlowLint
