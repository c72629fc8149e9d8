import FlowLint.Proofs.Check.Codes
import FlowLint.Proofs.Check.Limits
import FlowLint.Proofs.Graph.FromDocument
import FlowLint.Proofs.Wiring.Transpose
import FlowLint.Report

/-!
# What ends a run

A run of the checks is to give findings whatever the nodes hold. It does not always: for a workflow
that is read from a JSON document, four things in a node that is at work end the run
(`Graph.EndsRun`). The URL of a request can have a network location that cannot be one, its headers
or the written schema of a code tool can be nested too deep, and a finding can show what has no
text: a threshold of too many digits, or a value that is nested too deep.

* **`exists_urlFindings_iff`**, **`exists_schemaFindings_iff`**: when the two checks that look into
  a text give findings.
* **`exists_usedPlaceholders_iff`**: when the names in the headers can be found.
* **`wordable_agentFindings_iff`**, **`exists_toolKindFindings_iff`**: when all findings about an
  agent or a tool can be worded. The numbers of a JSON document can be shown, so only thresholds and
  the depth of values are left.
* **`exists_graph_iff`**: a run gives diagnostics when no node at work ends it, and so does the
  report of a graph.
-/

namespace FlowLint

/-! ## What is said of a node -/

/-- The number has no decimal text. -/
def IsLong (n : Nat) : Prop :=
  isWritable n = false

namespace Node

/-- The URL is a text without an expression, and its network location cannot be one. -/
def HasBrokenUrl (node : Node) : Prop :=
  ∃ text, node.parameters.get? "url" = some (.text text) ∧ Text.allBlank text.toList = false
    ∧ ¬ "\x7b\x7b".toList <:+: text.toList ∧ ∃ fault, Url.split text.toList = .error fault

/-- The schema is a text whose collections stand too deep inside one another. -/
def HasDeepSchema (node : Node) : Prop :=
  ∃ text, node.parameters.get? "inputSchema" = some (.text text)
    ∧ Text.allBlank text.toList = false
    ∧ ∃ collection, Json.read text.toList = .error (.tooDeep collection)

/-- The parameter is a value in which more collections than that stand inside one another. -/
def IsDeeper (node : Node) (key : String) (room : Nat) : Prop :=
  ∃ value, node.parameters.param? key = some value ∧ room < value.depth

/-- The headers are nested too deep to be written as a JSON text. -/
def HasDeepHeaders (node : Node) : Prop :=
  node.IsDeeper "headers" Json.maxWrittenDepth

/-- The language is not blank, and it is nested too deep to be shown. -/
def HasDeepLanguage (node : Node) : Prop :=
  Param.isBlank (node.parameters.param? "language") = false
    ∧ node.IsDeeper "language" Value.maxShownDepth

/-- The parameter is a number that is not below one and is above a limit. -/
def IsAbove (node : Node) (key : String) (limit : Nat) : Prop :=
  ∃ value number, node.parameters.param? key = some value ∧ value.number? = some number
    ∧ number.ltInt 1 = false ∧ number.gtInt limit = true

/-- There is a system message, and it is shorter than it should be. -/
def HasShortMessage (node : Node) (least : Nat) : Prop :=
  ∃ message, node.parameters.option? "systemMessage" = some message
    ∧ (Param.trimmedText (some message)).length < least

/-- There is a description that is written by hand, and it is shorter than it should be. -/
def HasShortDescription (node : Node) (least : Nat) : Prop :=
  node.parameters.get? "descriptionType" = some (.text "manual")
    ∧ Param.isBlank (node.parameters.param? "toolDescription") = false
    ∧ (Param.trimmedText (node.parameters.param? "toolDescription")).length < least

end Node

/-- The kinds of tools that describe themselves. -/
def ToolKind.describesItself : ToolKind → Bool
  | .calculator | .think => true
  | _ => false

/-- What is found in a parameter that is held against a limit cannot be shown: the number is above a
limit without a decimal text, or there is no number and the value is nested too deep. -/
def Node.HasUnshown (node : Node) (key : String) (limit : Nat) : Prop :=
  (node.IsAbove key limit ∧ IsLong limit) ∨ node.IsDeeper key Value.maxShownDepth

/-- What ends the check of an agent: a finding that shows a threshold without a decimal text, or a
value that is nested too deep. -/
inductive AgentFault (g : Graph) (settings : Settings) (node : Node) : Prop
  | models (many : settings.maxLanguageModels.value < g.wireCount node.name .languageModel)
      (long : IsLong settings.maxLanguageModels.value)
  | message (short : node.HasShortMessage settings.minSystemMessageLength.value)
      (long : IsLong settings.minSystemMessageLength.value)
  | iterations (unshown : node.HasUnshown "maxIterations" settings.maxIterationsWarning.value)

/-- What ends the check of a tool of some kind: the URL or the headers of a request, the schema of a
code tool, or a finding that shows a threshold without a decimal text or a value that is nested too
deep. -/
def ToolFault (settings : Settings) (node : Node) (kind : ToolKind) : Prop :=
  (kind.describesItself = false ∧ node.HasShortDescription settings.minToolDescriptionLength.value
      ∧ IsLong settings.minToolDescriptionLength.value)
    ∨ match kind with
      | .httpRequest => node.HasBrokenUrl ∨ node.HasDeepHeaders
      | .code => node.HasDeepSchema
      | .vectorStore => node.HasUnshown "topK" settings.maxTopKWarning.value
      | .agent => node.HasUnshown "maxIterations" settings.maxIterationsWarning.value
      | .wikipedia => node.HasDeepLanguage
      | _ => False

/-- The node ends a run of the checks when it is at work. -/
def Graph.EndsRun (g : Graph) (settings : Settings) (node : Node) : Prop :=
  match node.category with
  | .agent => AgentFault g settings node
  | .tool kind => ToolFault settings node kind
  | _ => False

/-! ## Findings that can be worded -/

/-- All findings can be worded. -/
abbrev Wordable (found : List Finding) : Prop :=
  AllFound (·.isWritable = true) found

/-- The codes of findings that show a number or a value. -/
def numeralCodes : List Code :=
  [.tooManyLanguageModels, .systemMessageTooShort, .toolDescriptionTooShort,
    .invalidMaxIterationsType, .maxIterationsTooLow, .maxIterationsHigh, .invalidTopK, .topKHigh,
    .invalidLanguageCode]

theorem Finding.isWritable_of_code {f : Finding} (h : f.code ∉ numeralCodes) :
    f.isWritable = true := by
  obtain ⟨severity, issue⟩ := f
  cases issue <;> simp [numeralCodes, Finding.isWritable, Finding.fault?, Issue.fault?] at h ⊢

theorem Wordable.of_codesIn {codes : List Code} {found : List Finding} (h : CodesIn codes found)
    (hother : ∀ code ∈ codes, code ∉ numeralCodes) : Wordable found :=
  h.imp fun f hcode => f.isWritable_of_code (hother f.code hcode)

theorem numeralFault?_eq_none_iff {n : Nat} : numeralFault? n = none ↔ ¬ IsLong n := by
  rw [IsLong, Bool.not_eq_false, numeralFault?]
  by_cases hn : isWritable n = true <;> simp [hn]

theorem numeralFault?_of_isLong {n : Nat} (h : IsLong n) : numeralFault? n = some .longNumeral :=
  if_neg (Bool.eq_false_iff.1 h)

/-- A finding that shows one number can be worded when the number has a text. -/
theorem Finding.isWritable_iff_of_numeralFault? {f : Finding} {n : Nat}
    (h : f.fault? = numeralFault? n) : f.isWritable = true ↔ ¬ IsLong n := by
  rw [Finding.isWritable, h, Option.isNone_iff_eq_none, numeralFault?_eq_none_iff]

namespace Rules

variable {node : Node} {settings : Settings}

theorem wordable_descriptionFindings_iff :
    Wordable (descriptionFindings node settings)
      ↔ ¬ (node.HasShortDescription settings.minToolDescriptionLength.value
        ∧ IsLong settings.minToolDescriptionLength.value) := by
  have hmanual : Param.isText (node.parameters.param? "descriptionType") "manual" = true
      ↔ node.parameters.get? "descriptionType" = some (.text "manual") := Param.isText_param?_iff
  have hmissing : (Finding.error .missingToolDescription).isWritable = true := rfl
  have hshort : ∀ least : Nat, (Finding.warning (.toolDescriptionTooShort least)).isWritable = true
      ↔ ¬ IsLong least := fun _ => Finding.isWritable_iff_of_numeralFault? rfl
  simp only [descriptionFindings, AllFound.ite_iff, AllFound.singleton_iff, AllFound.nil, hmissing,
    hshort]
  rw [Node.HasShortDescription, ← hmanual]
  simp

theorem wordable_systemMessageFindings_iff (ctx : Context) :
    Wordable (systemMessageFindings ctx node)
      ↔ ¬ (node.HasShortMessage ctx.settings.minSystemMessageLength.value
        ∧ IsLong ctx.settings.minSystemMessageLength.value) := by
  have hshort : ∀ least : Nat, (Finding.info (.systemMessageTooShort least)).isWritable = true
      ↔ ¬ IsLong least := fun _ => Finding.isWritable_iff_of_numeralFault? rfl
  rw [Node.HasShortMessage, systemMessageFindings]
  cases node.parameters.option? "systemMessage" with
  | none => simp [Finding.isWritable, Finding.fault?, Issue.fault?]
  | some message =>
    simp only [AllFound.ite_iff, AllFound.singleton_iff, AllFound.nil, hshort]
    simp

theorem wordable_modelFindings_iff {g : Graph} (h : g.TableDistinct) :
    Wordable (modelFindings (.of g settings) node)
      ↔ ¬ (settings.maxLanguageModels.value < g.wireCount node.name .languageModel
        ∧ IsLong settings.maxLanguageModels.value) := by
  have hwired : wired (.of g settings) node .languageModel
      = g.wireCount node.name .languageModel := ReverseIndex.countInbound_build h _ _
  have hmissing : (Finding.error .agentWithoutModel).isWritable = true := rfl
  have hmany : ∀ count limit : Nat, (Finding.error (.tooManyModels count limit)).isWritable = true
      ↔ ¬ IsLong limit := fun _ _ => Finding.isWritable_iff_of_numeralFault? rfl
  simp only [modelFindings, hwired, Context.of_settings, AllFound.ite_iff, AllFound.singleton_iff,
    AllFound.nil, hmissing, hmany]
  simp only [implies_true, true_and, and_true, not_and]
  -- a limit that is exceeded is exceeded by one model at least
  exact ⟨fun h hmany => h (by omega) hmany, fun h _ hmany => h hmany⟩

/-- The numbers of a JSON document can be shown, so the limit and the depth of values are left. -/
theorem LimitCheck.wordable_findings_iff (check : LimitCheck)
    (hjson : Value.IsJson (.map node.parameters)) :
    Wordable (check.findings node settings)
      ↔ ¬ node.HasUnshown check.key (check.limit settings).value := by
  rw [Node.HasUnshown, Node.IsAbove, Node.IsDeeper, findings]
  cases hvalue : node.parameters.param? check.key with
  | none => simp
  | some value =>
    have hshown := (hjson.param? hvalue).showFault?_eq
    cases hnumber : value.number? with
    | none =>
      have hdeep : (check.notNumeric value).isWritable = true
          ↔ value.depth ≤ Value.maxShownDepth := by
        rw [Finding.isWritable, check.fault_notNumeric, hshown, Value.depthFault?]
        by_cases hdepth : value.depth ≤ Value.maxShownDepth <;> simp [hdepth]
      simp [hnumber, hdeep]
    | some number =>
      -- a number is no collection, and can be shown
      have hflat : value.depth = 0 := Value.depth_of_number? hnumber
      have hnone : value.showFault? = none := by
        rw [hshown, hflat]
        exact if_pos (Nat.zero_le _)
      have hlow : (check.tooLow value number).isWritable = true := by
        rw [Finding.isWritable, check.fault_tooLow value number hnumber, hnone, Option.isNone_none]
      have hhigh : (check.tooHigh number (check.limit settings).value).isWritable = true
          ↔ ¬ IsLong (check.limit settings).value := by
        refine Finding.isWritable_iff_of_numeralFault? ?_
        rw [check.fault_tooHigh, ← Value.showFault?_of_number? hnumber, hnone, Option.none_or]
      simp only [hnumber, AllFound.ite_iff, AllFound.singleton_iff, hlow, hhigh]
      simp [hnumber, hflat]

theorem wordable_iterationFindings_iff (hjson : Value.IsJson (.map node.parameters)) :
    Wordable (iterationFindings node settings)
      ↔ ¬ node.HasUnshown "maxIterations" settings.maxIterationsWarning.value :=
  LimitCheck.iterations.wordable_findings_iff hjson

theorem wordable_topKFindings_iff (hjson : Value.IsJson (.map node.parameters)) :
    Wordable (topKFindings node settings)
      ↔ ¬ node.HasUnshown "topK" settings.maxTopKWarning.value :=
  LimitCheck.topK.wordable_findings_iff hjson

theorem wordable_languageFindings_iff (hjson : Value.IsJson (.map node.parameters)) :
    Wordable (languageFindings node) ↔ ¬ node.HasDeepLanguage := by
  rw [languageFindings, Node.HasDeepLanguage, Node.IsDeeper]
  cases hvalue : node.parameters.param? "language" with
  | none => simp
  | some value =>
    have hshown : (Finding.error (.invalidLanguageCode value)).isWritable = true
        ↔ value.depth ≤ Value.maxShownDepth := by
      show value.showFault?.isNone = true ↔ _
      rw [(hjson.param? hvalue).showFault?_eq, Value.depthFault?]
      by_cases hdepth : value.depth ≤ Value.maxShownDepth <;> simp [hdepth]
    by_cases hblank : Param.isBlank (some value) = true
    · simp [hblank]
    · cases htext : value.text? with
      | none => simp [hblank, htext, hshown]
      | some text =>
        -- a text is no collection
        have hflat : value.depth = 0 := Value.depth_of_text? htext
        rw [hflat] at hshown
        by_cases hcode : isLanguageCode text.toList = true <;>
          simp [hblank, htext, hcode, hshown, hflat]

/-! ## Checks that look into a text -/

/-- A text opens an expression where two opening braces stand in it, one behind the other. -/
theorem opensExpression_iff (cs : List Char) :
    opensExpression cs = true ↔ "\x7b\x7b".toList <:+: cs := by
  show _ ↔ ['\x7b', '\x7b'] <:+: cs
  fun_induction opensExpression cs with
  | case1 rest => exact iff_of_true rfl ⟨[], rest, rfl⟩
  | case2 c rest hnot ih =>
    rw [ih, List.infix_cons_iff]
    -- the braces do not stand at the front
    have hfront : ¬ ['\x7b', '\x7b'] <+: c :: rest := by
      rintro ⟨after, hafter⟩
      rw [List.cons_append, List.cons_append, List.cons.injEq] at hafter
      exact hnot _ hafter.1.symm hafter.2.symm
    simp [hfront]
  | case3 => simp

theorem param?_eq_text_of_text? {value : Option Value} {text : String}
    (h : Param.text? value = some text) : value = some (.text text) := by
  obtain ⟨v, rfl, hv⟩ := Option.bind_eq_some_iff.1 h
  unfold Value.text? at hv
  split at hv
  · cases hv
    rfl
  · exact nomatch hv

/-- **The check of a URL gives findings unless the URL is broken.** -/
theorem exists_urlFindings_iff :
    (∃ found, urlFindings node = .ok found) ↔ ¬ node.HasBrokenUrl := by
  unfold urlFindings Node.HasBrokenUrl
  simp only [← Param.text?_param?_iff, ← opensExpression_iff]
  cases htext : Param.text? (node.parameters.param? "url") with
  | none => by_cases hblank : Param.isBlank (node.parameters.param? "url") <;> simp [hblank]
  | some text =>
    have hblank : Param.isBlank (node.parameters.param? "url") = Text.allBlank text.toList := by
      rw [param?_eq_text_of_text? htext]
      rfl
    rw [hblank]
    by_cases hall : Text.allBlank text.toList = true
    · simp [hall]
    · by_cases hopens : opensExpression text.toList = true
      · simp [hall, hopens]
      · cases hsplit : Url.split text.toList <;> simp [hall, hopens, hsplit]

/-- **The check of a schema gives findings unless the schema is nested too deep.** -/
theorem exists_schemaFindings_iff :
    (∃ found, schemaFindings node = .ok found) ↔ ¬ node.HasDeepSchema := by
  unfold schemaFindings Node.HasDeepSchema
  simp only [← Param.text?_param?_iff]
  cases htext : Param.text? (node.parameters.param? "inputSchema") with
  | none =>
    have hempty : Text.allBlank ("".toList) = true := by decide
    rw [Option.getD_none, hempty]
    by_cases hmissing : (Param.isTrue (node.parameters.param? "specifyInputSchema")
        && Param.isBlank (node.parameters.param? "inputSchema")) = true <;> simp [hmissing]
  | some text =>
    have hblank : Param.isBlank (node.parameters.param? "inputSchema")
        = Text.allBlank text.toList := by
      rw [param?_eq_text_of_text? htext]
      rfl
    rw [hblank, Option.getD_some]
    by_cases hall : Text.allBlank text.toList = true
    · by_cases hasked : Param.isTrue (node.parameters.param? "specifyInputSchema") = true <;>
        simp [hall, hasked]
    · -- a text that is not blank is looked into, whether or not a schema is asked for
      have hread : (∃ found, schemaTextFindings text.toList = .ok found)
          ↔ ∀ collection, Json.read text.toList ≠ .error (.tooDeep collection) := by
        unfold schemaTextFindings Json.isObject
        cases Json.read text.toList with
        | ok value => cases value <;> simp
        | error fault => cases fault <;> simp
      simp [hall, hread]

/-- **The names in use are found unless the headers are too deep.** -/
theorem exists_usedPlaceholders_iff (hjson : Value.IsJson (.map node.parameters)) :
    (∃ used, usedPlaceholders node = .ok used) ↔ ¬ node.HasDeepHeaders := by
  have hheaders : (∃ inHeaders,
      headerPlaceholders (node.parameters.param? "headers") = .ok inHeaders)
        ↔ ¬ node.HasDeepHeaders := by
    rw [Node.HasDeepHeaders, Node.IsDeeper]
    cases hvalue : node.parameters.param? "headers" with
    | none => exact iff_of_true ⟨[], rfl⟩ (by simp)
    | some value =>
      rcases (hjson.param? hvalue).write_cases with ⟨hle, text, htext⟩ | ⟨hlt, hfault⟩
      · refine iff_of_true ⟨Text.placeholders text, by rw [headerPlaceholders, htext]⟩ ?_
        simpa using hle
      · rw [headerPlaceholders, hfault]
        exact iff_of_false nofun (by simpa using hlt)
  rw [← hheaders]
  constructor
  · rintro ⟨used, hused⟩
    obtain ⟨inHeaders, hinHeaders, -⟩ := Outcome.bind_eq_ok_iff.1 hused
    exact ⟨inHeaders, hinHeaders⟩
  · rintro ⟨inHeaders, hinHeaders⟩
    exact ⟨_, Outcome.bind_eq_ok_iff.2 ⟨inHeaders, hinHeaders, rfl⟩⟩

/-! ## Agents and tools -/

/-- **All findings about an agent can be worded** unless one shows a long threshold or a deep value.
-/
theorem wordable_agentFindings_iff {g : Graph} (htable : g.TableDistinct)
    (hjson : Value.IsJson (.map node.parameters)) :
    Wordable (agentFindings (.of g settings) node) ↔ ¬ AgentFault g settings node := by
  -- six of the nine checks show nothing that can be too long
  have hfallback : Wordable (fallbackFindings (.of g settings) node) :=
    Wordable.of_codesIn (inOrder_fallbackFindings _ node).codesIn (by decide)
  have hparser : Wordable (parserFindings (.of g settings) node) :=
    Wordable.of_codesIn (inOrder_parserFindings _ node).codesIn (by decide)
  have hprompt : Wordable (promptFindings node) :=
    Wordable.of_codesIn (inOrder_promptFindings node).codesIn (by decide)
  have hstreaming : Wordable (streamingFindings (.of g settings) node) :=
    Wordable.of_codesIn (inOrder_streamingFindings _ node).codesIn (by decide)
  have hmemory : Wordable (memoryFindings (.of g settings) node) :=
    Wordable.of_codesIn (inOrder_memoryFindings _ node).codesIn (by decide)
  have htools : Wordable (toolFindings (.of g settings) node) :=
    Wordable.of_codesIn (inOrder_toolFindings _ node).codesIn (by decide)
  simp only [agentFindings, AllFound.append_iff, wordable_modelFindings_iff htable,
    wordable_systemMessageFindings_iff, Context.of_settings, wordable_iterationFindings_iff hjson,
    hfallback, hparser, hprompt, hstreaming, hmemory, htools, and_true]
  constructor
  · rintro ⟨⟨hmodels, hmessage⟩, hiterations⟩ hfault
    cases hfault with
    | models many long => exact hmodels ⟨many, long⟩
    | message short long => exact hmessage ⟨short, long⟩
    | iterations unshown => exact hiterations unshown
  · intro hnone
    refine ⟨⟨?_, ?_⟩, ?_⟩
    · rintro ⟨many, long⟩
      exact hnone (.models many long)
    · rintro ⟨short, long⟩
      exact hnone (.message short long)
    · intro unshown
      exact hnone (.iterations unshown)

/-- A tool with a description gives findings that can be worded when those about its description
and its own can. -/
theorem exists_described_iff {kind : ToolKind} {P : Prop} {own : List Finding}
    (hkind : kind.describesItself = false) (hown : Wordable own ↔ ¬ P) :
    (∃ found, Except.ok (descriptionFindings node settings ++ own)
        = (.ok found : Except CheckFault (List Finding)) ∧ Wordable found)
      ↔ ¬ ((kind.describesItself = false
          ∧ node.HasShortDescription settings.minToolDescriptionLength.value
          ∧ IsLong settings.minToolDescriptionLength.value) ∨ P) := by
  rw [not_or, ← hown, and_iff_right hkind, ← wordable_descriptionFindings_iff,
    ← AllFound.append_iff]
  constructor
  · rintro ⟨found, hfound, hworded⟩
    cases hfound
    exact hworded
  · intro hworded
    exact ⟨_, rfl, hworded⟩

theorem exists_httpRequestFindings_iff (hjson : Value.IsJson (.map node.parameters)) :
    (∃ found, httpRequestFindings node settings = .ok found ∧ Wordable found)
      ↔ Wordable (descriptionFindings node settings)
        ∧ ¬ (node.HasBrokenUrl ∨ node.HasDeepHeaders) := by
  rw [not_or, ← exists_urlFindings_iff, ← exists_usedPlaceholders_iff hjson]
  constructor
  · rintro ⟨found, hfound, -⟩
    obtain ⟨hdescribed, inUrl, used, hurl, hused, -⟩ := httpRequestFindings_eq_ok_iff.1 hfound
    exact ⟨hdescribed, ⟨inUrl, hurl⟩, used, hused⟩
  · rintro ⟨hdescribed, ⟨inUrl, hurl⟩, used, hused⟩
    refine ⟨_, httpRequestFindings_eq_ok_iff.2 ⟨hdescribed, inUrl, used, hurl, hused, rfl⟩, ?_⟩
    simp only [AllFound.append_iff]
    refine ⟨⟨⟨⟨⟨hdescribed, ?_⟩, ?_⟩, ?_⟩, ?_⟩, ?_⟩
    · exact Wordable.of_codesIn (inOrder_urlFindings hurl).codesIn (by decide)
    · exact Wordable.of_codesIn (codesIn_placeholderFindings node used) (by decide)
    · exact Wordable.of_codesIn (inOrder_requestCredentialFindings node).codesIn (by decide)
    · exact Wordable.of_codesIn (inOrder_methodFindings _).codesIn (by decide)
    · exact Wordable.of_codesIn (inOrder_bodyFindings node _).codesIn (by decide)

theorem exists_codeFindings_iff :
    (∃ found, codeFindings node settings = .ok found ∧ Wordable found)
      ↔ Wordable (descriptionFindings node settings) ∧ ¬ node.HasDeepSchema := by
  rw [← exists_schemaFindings_iff]
  constructor
  · rintro ⟨found, hfound, -⟩
    obtain ⟨hdescribed, inSchema, hschema, -⟩ := codeFindings_eq_ok_iff.1 hfound
    exact ⟨hdescribed, inSchema, hschema⟩
  · rintro ⟨hdescribed, inSchema, hschema⟩
    refine ⟨_, codeFindings_eq_ok_iff.2 ⟨hdescribed, inSchema, hschema, rfl⟩, ?_⟩
    simp only [AllFound.append_iff]
    refine ⟨⟨hdescribed, ?_⟩, ?_⟩
    · exact Wordable.of_codesIn (inOrder_codeTextFindings node).codesIn (by decide)
    · exact Wordable.of_codesIn (inOrder_schemaFindings hschema).codesIn (by decide)

/-- **A tool gives findings that can be worded** unless it has a fault of its kind. -/
theorem exists_toolKindFindings_iff (hjson : Value.IsJson (.map node.parameters))
    (kind : ToolKind) :
    (∃ found, toolKindFindings kind node settings = .ok found ∧ Wordable found)
      ↔ ¬ ToolFault settings node kind := by
  have hrequired : ∀ (key : String) {finding : Finding}, finding.IsGraded →
      finding.code ∉ numeralCodes → Wordable (requiredFindings node key finding) :=
    fun key _ hgraded hcode =>
      Wordable.of_codesIn (inOrder_requiredFindings node key hgraded).codesIn (by simpa using hcode)
  have hcredentials : ∀ keys use, Wordable (credentialFindings node keys use) := fun keys use =>
    Wordable.of_codesIn (inOrder_credentialFindings node keys use).codesIn (by decide)
  have hserver : Wordable (serverFindings node) :=
    Wordable.of_codesIn (inOrder_serverFindings node).codesIn (by decide)
  unfold ToolFault
  cases kind with
  | httpRequest =>
    rw [not_or, and_iff_right (show ToolKind.httpRequest.describesItself = false from rfl),
      ← wordable_descriptionFindings_iff]
    exact exists_httpRequestFindings_iff hjson
  | code =>
    rw [not_or, and_iff_right (show ToolKind.code.describesItself = false from rfl),
      ← wordable_descriptionFindings_iff]
    exact exists_codeFindings_iff
  | vectorStore => exact exists_described_iff rfl (wordable_topKFindings_iff hjson)
  | workflow =>
    exact exists_described_iff rfl (iff_of_true (hrequired _ rfl (by decide)) not_false)
  | agent => exact exists_described_iff rfl (wordable_iterationFindings_iff hjson)
  | mcpClient => exact exists_described_iff rfl (iff_of_true hserver not_false)
  | calculator => exact iff_of_true ⟨[], rfl, .nil _⟩ (by simp [ToolKind.describesItself])
  | think => exact iff_of_true ⟨[], rfl, .nil _⟩ (by simp [ToolKind.describesItself])
  | serpApi => exact exists_described_iff rfl (iff_of_true (hcredentials _ _) not_false)
  | wikipedia =>
    exact exists_described_iff rfl (wordable_languageFindings_iff hjson)
  | searXng =>
    exact exists_described_iff rfl (iff_of_true (hrequired _ rfl (by decide)) not_false)
  | wolframAlpha => exact exists_described_iff rfl (iff_of_true (hcredentials _ _) not_false)

end Rules

/-! ## Runs -/

namespace Check

variable {g : Graph} {settings : Settings}

theorem exists_worded_iff {all : List Finding} :
    (∃ found, Rules.worded all = .ok found) ↔ Wordable all := by
  constructor
  · rintro ⟨found, hfound⟩
    exact (Rules.worded_eq_ok_iff.1 hfound).1
  · intro hworded
    exact ⟨all, Rules.worded_eq_ok_iff.2 ⟨hworded, rfl⟩⟩

/-- The checks of a node's category give findings unless the node ends the run. -/
theorem exists_findings_iff (htable : g.TableDistinct) {n : Node}
    (hjson : Value.IsJson (.map n.parameters)) :
    (∃ found, findings (.of g settings) n.category n = .ok found) ↔ ¬ g.EndsRun settings n := by
  unfold Graph.EndsRun
  cases n.category with
  | agent =>
    rw [← Rules.wordable_agentFindings_iff htable hjson]
    exact exists_worded_iff
  | chatTrigger => exact iff_of_true ⟨_, rfl⟩ not_false
  | basicChain => exact iff_of_true ⟨_, rfl⟩ not_false
  | tool kind =>
    rw [← Rules.exists_toolKindFindings_iff hjson]
    constructor
    · rintro ⟨found, hfound⟩
      obtain ⟨all, hall, hworded⟩ := Outcome.bind_eq_ok_iff.1 hfound
      exact ⟨all, hall, exists_worded_iff.1 ⟨found, hworded⟩⟩
    · rintro ⟨all, hall, hwordable⟩
      obtain ⟨found, hworded⟩ := exists_worded_iff.2 hwordable
      exact ⟨found, Outcome.bind_eq_ok_iff.2 ⟨all, hall, hworded⟩⟩
  | other => exact iff_of_true ⟨_, rfl⟩ not_false

/-- A node gives diagnostics unless it is at work and ends the run. -/
theorem exists_node_iff (htable : g.TableDistinct) {n : Node}
    (hjson : Value.IsJson (.map n.parameters)) :
    (∃ ds, node (.of g settings) n = .ok ds) ↔ (n.disabled = false → ¬ g.EndsRun settings n) := by
  simp only [node_eq, Outcome.map_eq_ok_iff, exists_and_left, exists_comm (α := List Diagnostic),
    exists_eq', and_true]
  rw [nodeFindings]
  by_cases hdisabled : n.disabled = true
  · simp [hdisabled]
  · rw [if_neg hdisabled, exists_findings_iff htable hjson]
    have henabled : n.disabled = false := by simpa using hdisabled
    exact ⟨fun h _ => h, fun h => h henabled⟩

theorem exists_nodes_iff {ctx : Context} {ns : List Node} :
    (∃ ds, nodes ctx ns = .ok ds) ↔ ∀ n ∈ ns, ∃ ds, node ctx n = .ok ds := by
  rw [← Outcome.exists_walk_eq_ok_iff, nodes_eq_walk]
  constructor
  · rintro ⟨ds, hds⟩
    obtain ⟨blocks, hblocks, -⟩ := Outcome.map_eq_ok_iff.1 hds
    exact ⟨blocks, hblocks⟩
  · rintro ⟨blocks, hblocks⟩
    exact ⟨blocks.flatten, Outcome.map_eq_ok_iff.2 ⟨blocks, hblocks, rfl⟩⟩

/-- **What ends a run.** The checks of a workflow that is read from a JSON document give
diagnostics, and give a report, exactly when no node at work ends the run. -/
theorem exists_graph_iff {document : Value} (hdocument : document.IsJson)
    (h : Graph.ofValue document = .ok g) (settings : Settings) :
    ((∃ ds, graph g settings = .ok ds)
        ↔ ∀ n ∈ g.nodes, n.disabled = false → ¬ g.EndsRun settings n)
    ∧ ((∃ report, Report.of g settings = .ok report)
        ↔ ∀ n ∈ g.nodes, n.disabled = false → ¬ g.EndsRun settings n) := by
  have htable := Graph.tableDistinct_of_keyed hdocument.keyed h
  have hgraph : (∃ ds, graph g settings = .ok ds)
      ↔ ∀ n ∈ g.nodes, n.disabled = false → ¬ g.EndsRun settings n := by
    rw [graph, exists_nodes_iff]
    refine forall₂_congr fun n hn => ?_
    exact exists_node_iff htable (Graph.bags_isJson hdocument h n hn).1
  refine ⟨hgraph, ?_⟩
  rw [← hgraph, Report.of]
  by_cases hchecked : g.isChecked = true
  · rw [if_pos hchecked]
    constructor
    · rintro ⟨report, hreport⟩
      obtain ⟨ds, hds, -⟩ := Outcome.map_eq_ok_iff.1 hreport
      exact ⟨ds, hds⟩
    · rintro ⟨ds, hds⟩
      exact ⟨_, Outcome.map_eq_ok_iff.2 ⟨ds, hds, rfl⟩⟩
  · rw [if_neg hchecked]
    refine iff_of_true ⟨_, rfl⟩ (hgraph.2 fun n hn _ => ?_)
    -- no node has a category with checks
    have hother : n.category = .other := by
      rw [Graph.isChecked, Bool.not_eq_true, List.any_eq_false] at hchecked
      simpa using hchecked n hn
    rw [Graph.EndsRun, hother]
    exact not_false

/-- A document with one request tool. -/
def requestTo (url : String) : Value :=
  .map [(.text "nodes", .list
    [.map [(.text "name", .text "Fetch"), (.text "type", .text "nodes-langchain.toolHttpRequest"),
      (.text "parameters", .map [(.text "url", .text url)])]])]

/-- The node of that document. -/
def requestNode (url : String) : Node where
  id := none
  name := "Fetch"
  type := "nodes-langchain.toolHttpRequest"
  typeVersion := .null
  parameters := [(.text "url", .text url)]
  credentials := []
  disabled := false
  extra := []

theorem isJson_requestTo (url : String) : (requestTo url).IsJson := by
  have hparameters : Value.IsJson (.map [(.text "url", .text url)]) :=
    .map (by simp [Members.Distinct]) (by simp) (by simpa using .scalar rfl)
  have hnode : Value.IsJson (.map
      [(.text "name", .text "Fetch"), (.text "type", .text "nodes-langchain.toolHttpRequest"),
        (.text "parameters", .map [(.text "url", .text url)])]) := by
    refine .map (by simp [Members.Distinct, Scalar.sameKey, Scalar.keyNumber?, Scalar.number?])
      (by simp) ?_
    simp only [List.forall_mem_cons]
    exact ⟨.scalar rfl, .scalar rfl, hparameters, by simp⟩
  refine .map (by simp [Members.Distinct]) (by simp) ?_
  simpa using Value.IsJson.list (by simpa using hnode)

theorem ofValue_requestTo (url : String) :
    Graph.ofValue (requestTo url) = .ok ⟨none, [requestNode url], [], []⟩ := rfl

/-- A bracket that is not closed leaves no network location: the node ends the run, and there are
neither diagnostics nor a report. -/
theorem exists_graph_requestTo :
    (requestTo "http://[bad").IsJson
    ∧ ∃ g, Graph.ofValue (requestTo "http://[bad") = .ok g
      ∧ (¬ ∃ ds, graph g {} = .ok ds) ∧ ¬ ∃ report, Report.of g {} = .ok report := by
  have hjson := isJson_requestTo "http://[bad"
  have hbroken : (requestNode "http://[bad").HasBrokenUrl := by
    refine ⟨"http://[bad", rfl, by decide, ?_, .brackets, by decide⟩
    rw [← Rules.opensExpression_iff]
    decide
  have hends : ∃ n ∈ [requestNode "http://[bad"], n.disabled = false
      ∧ Graph.EndsRun ⟨none, [requestNode "http://[bad"], [], []⟩ {} n :=
    ⟨_, List.mem_cons_self, rfl, .inr (.inl hbroken)⟩
  obtain ⟨hgraph, hreport⟩ := exists_graph_iff hjson (ofValue_requestTo _) {}
  obtain ⟨n, hn, henabled, hn_ends⟩ := hends
  refine ⟨hjson, _, ofValue_requestTo _, ?_, ?_⟩
  · rw [hgraph]
    intro hnone
    exact hnone n hn henabled hn_ends
  · rw [hreport]
    intro hnone
    exact hnone n hn henabled hn_ends

/-- So it is not so that a run always gives diagnostics. -/
theorem graph_requestTo_fails :
    ¬ ∀ (document : Value) (g : Graph) (settings : Settings), document.IsJson →
      Graph.ofValue document = .ok g →
      (∃ ds, graph g settings = .ok ds) ∧ ∃ report, Report.of g settings = .ok report := by
  intro hall
  obtain ⟨⟨ds, hds⟩, -⟩ := hall (requestTo "http://[bad") _ {} (isJson_requestTo _)
    (ofValue_requestTo _)
  have hfault : graph ⟨none, [requestNode "http://[bad"], [], []⟩ {}
      = .error (.url .brackets) := rfl
  rw [hfault] at hds
  exact nomatch hds

end Check

end FlowLint
