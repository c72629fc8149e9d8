import FlowLint.Proofs.Check.Run
import Mathlib.Data.List.Nodup

/-!
# The codes that a check can give

Every check has a few codes of its own, and it gives them in a fixed order and none of them twice,
each with the severity that goes with it (`InOrder`). Only the placeholders of a request are
reported one by one, with the same code for each. The lemmas go check by check, and
**`codesIn_toolKindFindings`** puts the checks of tools together, with
`httpRequestFindings_eq_ok_iff` and `codeFindings_eq_ok_iff` for the two that are done in steps.
**`Check.codesIn_findings`** says it for all categories, and **`Check.graded_findings`** says that
the code of a finding decides its severity, whichever check has made it.
-/

namespace FlowLint

/-! ## Severities -/

/-- The severity that goes with a code. -/
def Code.severity : Code → Severity
  | .missingSystemMessage | .systemMessageTooShort | .noToolsConnected | .streamingRecommended =>
    .info
  | .fallbackNotEnabled | .maxIterationsHigh | .toolDescriptionTooShort | .invalidUrlFormat
  | .missingPlaceholderDefinitions | .unusedPlaceholder | .missingRequestBody | .noInputSchema
  | .topKHigh => .warning
  | _ => .error

/-- A check has given the finding the severity that goes with its code. -/
def Finding.IsGraded (f : Finding) : Prop :=
  f.severity = f.code.severity

-- the issue of a finding decides its code, and its check has chosen its severity; the many
-- equations are made once, here
attribute [simp] Finding.code Issue.code Code.severity Finding.IsGraded

/-! ## Lists of findings -/

/-- All findings have a property. -/
def AllFound (P : Finding → Prop) (found : List Finding) : Prop :=
  ∀ f ∈ found, P f

namespace AllFound

variable {P Q : Finding → Prop} {found others : List Finding}

@[simp] theorem nil (P : Finding → Prop) : AllFound P [] :=
  fun _ hf => absurd hf List.not_mem_nil

@[simp] theorem singleton_iff {f : Finding} : AllFound P [f] ↔ P f :=
  List.forall_mem_singleton

@[simp] theorem append_iff :
    AllFound P (found ++ others) ↔ AllFound P found ∧ AllFound P others :=
  List.forall_mem_append

theorem ite_iff {c : Prop} [Decidable c] :
    AllFound P (if c then found else others)
      ↔ (c → AllFound P found) ∧ (¬ c → AllFound P others) := by
  by_cases hc : c <;> simp [hc]

theorem imp (h : AllFound P found) (himp : ∀ f, P f → Q f) : AllFound Q found :=
  fun f hf => himp f (h f hf)

theorem map {make : String → Finding} (names : List String) (h : ∀ name, P (make name)) :
    AllFound P (names.map make) := by
  intro f hf
  obtain ⟨name, -, rfl⟩ := List.mem_map.1 hf
  exact h name

end AllFound

/-- All findings have one of the codes. -/
abbrev CodesIn (codes : List Code) (found : List Finding) : Prop :=
  AllFound (·.code ∈ codes) found

/-- All findings have the severities that go with their codes. -/
abbrev Graded (found : List Finding) : Prop :=
  AllFound Finding.IsGraded found

/-- Some finding has the code. -/
def Finds (found : List Finding) (code : Code) : Prop :=
  ∃ f ∈ found, f.code = code

theorem Finds.append_iff {found others : List Finding} {code : Code} :
    Finds (found ++ others) code ↔ Finds found code ∨ Finds others code := by
  simp only [Finds, List.mem_append, or_and_right, exists_or]

theorem CodesIn.mem_of_finds {codes : List Code} {found : List Finding} {code : Code}
    (h : CodesIn codes found) (hfinds : Finds found code) : code ∈ codes := by
  obtain ⟨f, hf, rfl⟩ := hfinds
  exact h f hf

theorem CodesIn.mono {codes more : List Code} {found : List Finding} (h : CodesIn codes found)
    (hsub : codes ⊆ more) : CodesIn more found :=
  h.imp fun _ hcode => hsub hcode

theorem CodesIn.filter_eq_self {codes : List Code} {found : List Finding}
    (h : CodesIn codes found) : found.filter (·.code ∈ codes) = found :=
  List.filter_eq_self.2 fun f hf => decide_eq_true (h f hf)

/-- Findings with other codes are left out. -/
theorem CodesIn.filter_eq_nil {codes : List Code} {found : List Finding} (h : CodesIn codes found)
    (others : List Code) (hother : ∀ code ∈ codes, code ∉ others) :
    found.filter (·.code ∈ others) = [] :=
  List.filter_eq_nil_iff.2 fun f hf hmem => hother f.code (h f hf) (of_decide_eq_true hmem)

/-- A code that the first findings cannot have is found when the others have it. -/
theorem Finds.append_iff_right {codes : List Code} {found others : List Finding} {code : Code}
    (h : CodesIn codes found) (hcode : code ∉ codes) :
    Finds (found ++ others) code ↔ Finds others code := by
  have hnone : ¬ Finds found code := fun hfinds => hcode (h.mem_of_finds hfinds)
  rw [Finds.append_iff, or_iff_right hnone]

theorem Finds.append_iff_left {codes : List Code} {found others : List Finding} {code : Code}
    (h : CodesIn codes others) (hcode : code ∉ codes) :
    Finds (found ++ others) code ↔ Finds found code := by
  have hnone : ¬ Finds others code := fun hfinds => hcode (h.mem_of_finds hfinds)
  rw [Finds.append_iff, or_iff_left hnone]

/-- A single finding is made under a condition: its code is found when the condition holds. -/
theorem Finds.ite_singleton_iff {c : Prop} [Decidable c] {f : Finding} :
    Finds (if c then [f] else []) f.code ↔ c := by
  by_cases hc : c
  · rw [if_pos hc]
    exact iff_of_true ⟨f, List.mem_singleton_self f, rfl⟩ hc
  · rw [if_neg hc]
    exact iff_of_false (fun ⟨_, hf, _⟩ => List.not_mem_nil hf) hc

/-- The codes of the findings are some of these, each as often as it stands here and in this order,
and the severities are those that go with them. -/
structure InOrder (codes : List Code) (found : List Finding) : Prop where
  sublist : (found.map (·.code)).Sublist codes
  graded : Graded found

namespace InOrder

variable {codes more : List Code} {found others : List Finding}

@[simp] theorem nil (codes : List Code) : InOrder codes [] :=
  ⟨List.nil_sublist codes, .nil _⟩

@[simp] theorem singleton_iff {f : Finding} :
    InOrder codes [f] ↔ f.code ∈ codes ∧ f.severity = f.code.severity := by
  constructor
  · rintro ⟨hsublist, hgraded⟩
    exact ⟨List.singleton_sublist.1 hsublist, AllFound.singleton_iff.1 hgraded⟩
  · rintro ⟨hcode, hseverity⟩
    exact ⟨List.singleton_sublist.2 hcode, AllFound.singleton_iff.2 hseverity⟩

theorem ite_iff {c : Prop} [Decidable c] :
    InOrder codes (if c then found else others)
      ↔ (c → InOrder codes found) ∧ (¬ c → InOrder codes others) := by
  by_cases hc : c <;> simp [hc]

theorem append (h : InOrder codes found) (hothers : InOrder more others) :
    InOrder (codes ++ more) (found ++ others) where
  sublist := by
    rw [List.map_append]
    exact h.sublist.append hothers.sublist
  graded := AllFound.append_iff.2 ⟨h.graded, hothers.graded⟩

theorem codesIn (h : InOrder codes found) : CodesIn codes found :=
  fun _ hf => h.sublist.subset (List.mem_map_of_mem hf)

end InOrder

namespace Rules

/-! ## Shared checks -/

theorem inOrder_promptFindings (node : Node) :
    InOrder [.missingPromptText] (promptFindings node) := by
  unfold promptFindings
  split <;> simp

/-- The codes about a limit of iterations. -/
def iterationCodes : List Code :=
  [.invalidMaxIterationsType, .maxIterationsTooLow, .maxIterationsHigh]

theorem inOrder_iterationFindings (node : Node) (settings : Settings) :
    InOrder iterationCodes (iterationFindings node settings) := by
  simp only [iterationFindings]
  split
  · exact .nil _
  · split
    · simp [iterationCodes]
    · split
      · simp [iterationCodes]
      · split <;> simp [iterationCodes]

/-- The codes about the description of a tool. -/
def descriptionCodes : List Code :=
  [.missingToolDescription, .toolDescriptionTooShort]

theorem inOrder_descriptionFindings (node : Node) (settings : Settings) :
    InOrder descriptionCodes (descriptionFindings node settings) := by
  simp only [descriptionFindings]
  split
  · exact .nil _
  · split
    · simp [descriptionCodes]
    · split <;> simp [descriptionCodes]

/-! ## Agents -/

theorem inOrder_modelFindings (ctx : Context) (node : Node) :
    InOrder [.missingLanguageModel, .tooManyLanguageModels] (modelFindings ctx node) := by
  simp only [modelFindings, InOrder.ite_iff, InOrder.singleton_iff]
  simp

theorem inOrder_fallbackFindings (ctx : Context) (node : Node) :
    InOrder [.fallbackNotEnabled, .fallbackMissingSecondModel] (fallbackFindings ctx node) := by
  show InOrder ([.fallbackNotEnabled] ++ [.fallbackMissingSecondModel]) _
  refine .append (InOrder.ite_iff.2 ?_) (InOrder.ite_iff.2 ?_) <;> simp

theorem inOrder_parserFindings (ctx : Context) (node : Node) :
    InOrder [.missingOutputParser, .multipleOutputParsers] (parserFindings ctx node) := by
  show InOrder ([.missingOutputParser] ++ [.multipleOutputParsers]) _
  refine .append (InOrder.ite_iff.2 ?_) (InOrder.ite_iff.2 ?_) <;> simp

theorem inOrder_streamingFindings (ctx : Context) (node : Node) :
    InOrder [.streamingWithMainOutput] (streamingFindings ctx node) := by
  unfold streamingFindings
  split <;> simp

theorem inOrder_memoryFindings (ctx : Context) (node : Node) :
    InOrder [.multipleMemoryConnections] (memoryFindings ctx node) := by
  unfold memoryFindings
  dsimp only
  split <;> simp

theorem inOrder_systemMessageFindings (ctx : Context) (node : Node) :
    InOrder [.missingSystemMessage, .systemMessageTooShort] (systemMessageFindings ctx node) := by
  simp only [systemMessageFindings]
  split
  · simp
  · split <;> simp

theorem inOrder_toolFindings (ctx : Context) (node : Node) :
    InOrder [.noToolsConnected] (toolFindings ctx node) := by
  unfold toolFindings
  split <;> simp

/-- The codes that the check of an agent can give, in the order of its parts. -/
def agentCodes : List Code :=
  [.missingLanguageModel, .tooManyLanguageModels, .fallbackNotEnabled, .fallbackMissingSecondModel,
    .missingOutputParser, .multipleOutputParsers, .missingPromptText, .missingSystemMessage,
    .systemMessageTooShort, .streamingWithMainOutput, .multipleMemoryConnections,
    .noToolsConnected] ++ iterationCodes

/-- What is found in an agent behind the checks of its models. -/
def furtherFindings (ctx : Context) (node : Node) : List Finding :=
  parserFindings ctx node ++ promptFindings node ++ systemMessageFindings ctx node
    ++ streamingFindings ctx node ++ memoryFindings ctx node ++ toolFindings ctx node
    ++ iterationFindings node ctx.settings

theorem agentFindings_eq_append (ctx : Context) (node : Node) :
    agentFindings ctx node
      = modelFindings ctx node ++ fallbackFindings ctx node ++ furtherFindings ctx node := by
  simp only [agentFindings, furtherFindings, List.append_assoc]

/-- The codes of an agent that are not about the number of its models. -/
def furtherCodes : List Code :=
  [.missingOutputParser, .multipleOutputParsers, .missingPromptText, .missingSystemMessage,
    .systemMessageTooShort, .streamingWithMainOutput, .multipleMemoryConnections,
    .noToolsConnected] ++ iterationCodes

theorem inOrder_furtherFindings (ctx : Context) (node : Node) :
    InOrder furtherCodes (furtherFindings ctx node) := by
  have hprompt := (inOrder_parserFindings ctx node).append (inOrder_promptFindings node)
  have hmessage := hprompt.append (inOrder_systemMessageFindings ctx node)
  have hstreaming := hmessage.append (inOrder_streamingFindings ctx node)
  have hmemory := hstreaming.append (inOrder_memoryFindings ctx node)
  have htools := hmemory.append (inOrder_toolFindings ctx node)
  exact htools.append (inOrder_iterationFindings node ctx.settings)

theorem inOrder_agentFindings (ctx : Context) (node : Node) :
    InOrder agentCodes (agentFindings ctx node) := by
  have hmodels := (inOrder_modelFindings ctx node).append (inOrder_fallbackFindings ctx node)
  rw [agentFindings_eq_append]
  exact hmodels.append (inOrder_furtherFindings ctx node)

/-- The codes that the check of a basic chain can give. -/
def chainCodes : List Code :=
  [.missingLanguageModel, .multipleLanguageModels, .missingPromptText]

theorem inOrder_chainModelFindings (ctx : Context) (node : Node) :
    InOrder [.missingLanguageModel, .multipleLanguageModels] (chainModelFindings ctx node) := by
  simp only [chainModelFindings, InOrder.ite_iff, InOrder.singleton_iff]
  simp

theorem inOrder_chainFindings (ctx : Context) (node : Node) :
    InOrder chainCodes (chainFindings ctx node) :=
  (inOrder_chainModelFindings ctx node).append (inOrder_promptFindings node)

/-- The codes that the check of a chat trigger can give. -/
def triggerCodes : List Code :=
  [.missingConnections, .streamingWrongTarget, .streamingAgentHasOutput, .streamingRecommended]

theorem inOrder_chatTriggerFindings (ctx : Context) (node : Node) :
    InOrder triggerCodes (chatTriggerFindings ctx node) := by
  unfold chatTriggerFindings
  split
  · simp [triggerCodes]
  · split
    · exact .nil _
    · simp only [targetFindings, InOrder.ite_iff, InOrder.singleton_iff]
      simp [triggerCodes]

/-! ## Tools -/

theorem inOrder_requiredFindings (node : Node) (key : String) {finding : Finding}
    (hgraded : finding.IsGraded) : InOrder [finding.code] (requiredFindings node key finding) := by
  unfold requiredFindings
  split
  · exact InOrder.singleton_iff.2 ⟨List.mem_singleton_self _, hgraded⟩
  · exact .nil _

theorem inOrder_codeTextFindings (node : Node) :
    InOrder [.missingCode] (requiredFindings node "jsCode" (.error .missingCode)) := by
  have hgraded : (Finding.error .missingCode).IsGraded := rfl
  exact inOrder_requiredFindings node "jsCode" hgraded

theorem inOrder_topKFindings (node : Node) (settings : Settings) :
    InOrder [.invalidTopK, .topKHigh] (topKFindings node settings) := by
  simp only [topKFindings]
  split
  · exact .nil _
  · split
    · simp
    · split
      · simp
      · split <;> simp

theorem inOrder_serverFindings (node : Node) :
    InOrder [.missingServerUrl] (serverFindings node) := by
  unfold serverFindings
  split <;> simp

theorem inOrder_credentialFindings (node : Node) (keys : List String) (use : CredentialUse) :
    InOrder [.missingCredentials] (credentialFindings node keys use) := by
  unfold credentialFindings
  split <;> simp

theorem inOrder_languageFindings (node : Node) :
    InOrder [.invalidLanguageCode] (languageFindings node) := by
  unfold languageFindings
  split
  · exact .nil _
  · split
    · exact .nil _
    · split
      · split <;> simp
      · simp

/-! ## The HTTP request tool -/

/-- The check of a request gives findings when its description can be worded, its URL can be split
and its headers can be written. They come in this order. -/
theorem httpRequestFindings_eq_ok_iff {node : Node} {settings : Settings} {found : List Finding} :
    httpRequestFindings node settings = .ok found
      ↔ (∀ f ∈ descriptionFindings node settings, f.isWritable = true)
        ∧ ∃ inUrl used, urlFindings node = .ok inUrl ∧ usedPlaceholders node = .ok used
          ∧ found = descriptionFindings node settings ++ inUrl ++ placeholderFindings node used
            ++ requestCredentialFindings node ++ methodFindings (requestMethod node)
            ++ bodyFindings node (requestMethod node) := by
  rw [httpRequestFindings, Outcome.bind_eq_ok_iff]
  constructor
  · rintro ⟨described, hdescribed, hrest⟩
    obtain ⟨hwritable, rfl⟩ := worded_eq_ok_iff.1 hdescribed
    obtain ⟨inUrl, hurl, hrest⟩ := Outcome.bind_eq_ok_iff.1 hrest
    obtain ⟨used, hused, hrest⟩ := Outcome.bind_eq_ok_iff.1 hrest
    cases hrest
    exact ⟨hwritable, inUrl, used, hurl, hused, rfl⟩
  · rintro ⟨hwritable, inUrl, used, hurl, hused, rfl⟩
    refine ⟨_, worded_eq_ok_iff.2 ⟨hwritable, rfl⟩, Outcome.bind_eq_ok_iff.2 ⟨inUrl, hurl, ?_⟩⟩
    exact Outcome.bind_eq_ok_iff.2 ⟨used, hused, rfl⟩

theorem inOrder_urlFindings {node : Node} {found : List Finding}
    (h : urlFindings node = .ok found) :
    InOrder [.missingUrl, .invalidUrlProtocol, .invalidUrlFormat] found := by
  simp only [urlFindings] at h
  split at h
  · cases h
    simp
  · split at h
    · cases h
      exact .nil _
    · split at h
      · cases h
        exact .nil _
      · split at h
        · cases h
          simp only [urlPartFindings]
          split
          · simp
          · split <;> simp
        · exact nomatch h

theorem graded_placeholderFindings (node : Node) (used : List String) :
    Graded (placeholderFindings node used) := by
  unfold placeholderFindings
  split
  · exact .nil _
  · split
    · simp
    · rw [definitionFindings]
      exact AllFound.append_iff.2 ⟨.map _ fun _ => rfl, .map _ fun _ => rfl⟩

theorem codesIn_placeholderFindings (node : Node) (used : List String) :
    CodesIn [.missingPlaceholderDefinitions, .undefinedPlaceholder, .unusedPlaceholder]
      (placeholderFindings node used) := by
  unfold placeholderFindings
  split
  · exact .nil _
  · split
    · simp
    · rw [definitionFindings]
      exact AllFound.append_iff.2 ⟨.map _ (by simp), .map _ (by simp)⟩

theorem inOrder_requestCredentialFindings (node : Node) :
    InOrder [.missingCredentials] (requestCredentialFindings node) := by
  unfold requestCredentialFindings
  split <;> simp

theorem inOrder_methodFindings (method : List Char) :
    InOrder [.invalidHttpMethod] (methodFindings method) := by
  unfold methodFindings
  split <;> simp

theorem inOrder_bodyFindings (node : Node) (method : List Char) :
    InOrder [.missingRequestBody] (bodyFindings node method) := by
  unfold bodyFindings
  split <;> simp

/-! ## The code tool -/

/-- The check of a code tool gives findings when its description can be worded and its schema can be
looked into. -/
theorem codeFindings_eq_ok_iff {node : Node} {settings : Settings} {found : List Finding} :
    codeFindings node settings = .ok found
      ↔ (∀ f ∈ descriptionFindings node settings, f.isWritable = true)
        ∧ ∃ inSchema, schemaFindings node = .ok inSchema
          ∧ found = descriptionFindings node settings
            ++ requiredFindings node "jsCode" (.error .missingCode) ++ inSchema := by
  rw [codeFindings, Outcome.bind_eq_ok_iff]
  constructor
  · rintro ⟨described, hdescribed, hrest⟩
    obtain ⟨hwritable, rfl⟩ := worded_eq_ok_iff.1 hdescribed
    obtain ⟨inSchema, hschema, hrest⟩ := Outcome.bind_eq_ok_iff.1 hrest
    cases hrest
    exact ⟨hwritable, inSchema, hschema, rfl⟩
  · rintro ⟨hwritable, inSchema, hschema, rfl⟩
    refine ⟨_, worded_eq_ok_iff.2 ⟨hwritable, rfl⟩, ?_⟩
    exact Outcome.bind_eq_ok_iff.2 ⟨inSchema, hschema, rfl⟩

theorem inOrder_schemaFindings {node : Node} {found : List Finding}
    (h : schemaFindings node = .ok found) :
    InOrder [.missingInputSchema, .invalidInputSchema, .noInputSchema] found := by
  simp only [schemaFindings] at h
  split at h
  · cases h
    simp
  · split at h
    · unfold schemaTextFindings at h
      split at h
      · cases h
        split <;> simp
      · exact nomatch h
    · cases h
      split <;> simp

/-! ## All tools -/

/-- The codes that the check of a kind of tool can give. -/
def toolCodes : ToolKind → List Code
  | .httpRequest =>
    descriptionCodes ++ [.missingUrl, .invalidUrlProtocol, .invalidUrlFormat,
      .missingPlaceholderDefinitions, .undefinedPlaceholder, .unusedPlaceholder,
      .missingCredentials, .invalidHttpMethod, .missingRequestBody]
  | .code =>
    descriptionCodes ++ [.missingCode, .missingInputSchema, .invalidInputSchema, .noInputSchema]
  | .vectorStore => descriptionCodes ++ [.invalidTopK, .topKHigh]
  | .workflow => descriptionCodes ++ [.missingWorkflowId]
  | .agent => descriptionCodes ++ iterationCodes
  | .mcpClient => descriptionCodes ++ [.missingServerUrl]
  | .calculator | .think => []
  | .serpApi | .wolframAlpha => descriptionCodes ++ [.missingCredentials]
  | .wikipedia => descriptionCodes ++ [.invalidLanguageCode]
  | .searXng => descriptionCodes ++ [.missingBaseUrl]

/-- The check of a tool gives the codes of its kind in their order, unless it is a request. -/
theorem inOrder_toolKindFindings {kind : ToolKind} {node : Node} {settings : Settings}
    {found : List Finding} (h : toolKindFindings kind node settings = .ok found)
    (hkind : kind ≠ .httpRequest) : InOrder (toolCodes kind) found := by
  -- all checks of tools but two start with the description
  have hdescribed := inOrder_descriptionFindings node settings
  cases kind with
  | httpRequest => exact absurd rfl hkind
  | code =>
    obtain ⟨-, inSchema, hschema, rfl⟩ := codeFindings_eq_ok_iff.1 h
    have hcode := inOrder_codeTextFindings node
    exact (hdescribed.append hcode).append (inOrder_schemaFindings hschema)
  | vectorStore =>
    cases h
    exact hdescribed.append (inOrder_topKFindings node settings)
  | workflow =>
    cases h
    have hgraded : (Finding.error .missingWorkflowId).IsGraded := rfl
    exact hdescribed.append (inOrder_requiredFindings node "workflowId" hgraded)
  | agent =>
    cases h
    exact hdescribed.append (inOrder_iterationFindings node settings)
  | mcpClient =>
    cases h
    exact hdescribed.append (inOrder_serverFindings node)
  | calculator =>
    cases h
    exact .nil _
  | think =>
    cases h
    exact .nil _
  | serpApi =>
    cases h
    exact hdescribed.append (inOrder_credentialFindings node _ _)
  | wikipedia =>
    cases h
    exact hdescribed.append (inOrder_languageFindings node)
  | searXng =>
    cases h
    have hgraded : (Finding.error .missingBaseUrl).IsGraded := rfl
    exact hdescribed.append (inOrder_requiredFindings node "baseUrl" hgraded)
  | wolframAlpha =>
    cases h
    exact hdescribed.append (inOrder_credentialFindings node _ _)

/-- **The check of a tool gives codes of its kind.** -/
theorem codesIn_toolKindFindings {kind : ToolKind} {node : Node} {settings : Settings}
    {found : List Finding} (h : toolKindFindings kind node settings = .ok found) :
    CodesIn (toolCodes kind) found := by
  by_cases hkind : kind = .httpRequest
  · subst hkind
    obtain ⟨-, inUrl, used, hurl, -, rfl⟩ := httpRequestFindings_eq_ok_iff.1 h
    simp only [AllFound.append_iff]
    refine ⟨⟨⟨⟨⟨?_, ?_⟩, ?_⟩, ?_⟩, ?_⟩, ?_⟩
    · exact (inOrder_descriptionFindings node settings).codesIn.mono (List.subset_append_left _ _)
    · exact (inOrder_urlFindings hurl).codesIn.mono (by decide)
    · exact (codesIn_placeholderFindings node used).mono (by decide)
    · exact (inOrder_requestCredentialFindings node).codesIn.mono (by decide)
    · exact (inOrder_methodFindings _).codesIn.mono (by decide)
    · exact (inOrder_bodyFindings node _).codesIn.mono (by decide)
  · exact (inOrder_toolKindFindings h hkind).codesIn

/-- The check of a tool gives its codes with the severities that go with them. -/
theorem graded_toolKindFindings {kind : ToolKind} {node : Node} {settings : Settings}
    {found : List Finding} (h : toolKindFindings kind node settings = .ok found) :
    Graded found := by
  by_cases hkind : kind = .httpRequest
  · subst hkind
    obtain ⟨-, inUrl, used, hurl, -, rfl⟩ := httpRequestFindings_eq_ok_iff.1 h
    simp only [Graded, AllFound.append_iff]
    exact ⟨⟨⟨⟨⟨(inOrder_descriptionFindings node settings).graded,
      (inOrder_urlFindings hurl).graded⟩, graded_placeholderFindings node used⟩,
      (inOrder_requestCredentialFindings node).graded⟩, (inOrder_methodFindings _).graded⟩,
      (inOrder_bodyFindings node _).graded⟩
  · exact (inOrder_toolKindFindings h hkind).graded

end Rules

/-! ## All categories -/

/-- The codes that the checks of a category can give. -/
def Category.codes : Category → List Code
  | .agent => Rules.agentCodes
  | .chatTrigger => Rules.triggerCodes
  | .basicChain => Rules.chainCodes
  | .tool kind => Rules.toolCodes kind
  | .other => []

/-- The checks of a category give its codes in their order, unless it is that of requests. -/
theorem Check.inOrder_findings {ctx : Context} {category : Category} {node : Node}
    {found : List Finding} (h : findings ctx category node = .ok found)
    (hcategory : category ≠ .tool .httpRequest) : InOrder category.codes found := by
  cases category with
  | agent =>
    obtain rfl := eq_agentFindings h
    exact Rules.inOrder_agentFindings ctx node
  | chatTrigger =>
    cases h
    exact Rules.inOrder_chatTriggerFindings ctx node
  | basicChain =>
    cases h
    exact Rules.inOrder_chainFindings ctx node
  | tool kind =>
    have hfound := toolKindFindings_of_findings h
    exact Rules.inOrder_toolKindFindings hfound fun hkind => hcategory (congrArg _ hkind)
  | other =>
    cases h
    exact .nil _

/-- **The checks of a category give its codes.** -/
theorem Check.codesIn_findings {ctx : Context} {category : Category} {node : Node}
    {found : List Finding} (h : findings ctx category node = .ok found) :
    CodesIn category.codes found := by
  by_cases hcategory : category = .tool .httpRequest
  · subst hcategory
    exact Rules.codesIn_toolKindFindings (toolKindFindings_of_findings h)
  · exact (inOrder_findings h hcategory).codesIn

/-- **The code of a finding decides its severity**, whichever check has made it. -/
theorem Check.graded_findings {ctx : Context} {category : Category} {node : Node}
    {found : List Finding} (h : findings ctx category node = .ok found) : Graded found := by
  by_cases hcategory : category = .tool .httpRequest
  · subst hcategory
    exact Rules.graded_toolKindFindings (toolKindFindings_of_findings h)
  · exact (inOrder_findings h hcategory).graded

/-! The codes about streaming to an agent tell from which side they come. -/

theorem Category.eq_agent_of_mem_codes {category : Category}
    (h : .streamingWithMainOutput ∈ category.codes) : category = .agent := by
  revert h
  cases category with
  | tool kind => cases kind <;> decide
  | _ => decide

theorem Category.eq_chatTrigger_of_mem_codes {category : Category}
    (h : .streamingWrongTarget ∈ category.codes ∨ .streamingAgentHasOutput ∈ category.codes) :
    category = .chatTrigger := by
  revert h
  cases category with
  | tool kind => cases kind <;> decide
  | _ => decide

/-! ## The codes about a node

A diagnostic carries the name of its node. When no two nodes share a name, the diagnostics of a run
that carry a node's name are those of its findings. -/

/-- One of the diagnostics is about the node and has the code. -/
def Node.Gets (node : Node) (ds : List Diagnostic) (code : Code) : Prop :=
  ∃ d ∈ ds, d.nodeName = node.name ∧ d.code = code

/-- A node gets the codes that the checks of its category find, if it is at work. -/
theorem Check.gets_iff {ctx : Context} {ns : List Node} {ds : List Diagnostic}
    (hnames : (ns.map (·.name)).Nodup) (h : nodes ctx ns = .ok ds) {n : Node} (hn : n ∈ ns)
    (code : Code) :
    n.Gets ds code
      ↔ n.disabled = false ∧ ∃ found, findings ctx n.category n = .ok found ∧ Finds found code := by
  obtain ⟨-, hmem⟩ := mem_of_nodes_eq_ok h
  constructor
  · rintro ⟨d, hd, hname, hcode⟩
    obtain ⟨other, hother, found, hfound, hdiagnose⟩ := (hmem d).1 hd
    obtain ⟨f, hf, rfl⟩ := mem_diagnose_iff.1 hdiagnose
    -- the node that the diagnostic is of has the name, so it is this one
    obtain rfl : other = n := List.inj_on_of_nodup_map hnames hother hn hname
    rcases nodeFindings_cases hfound with rfl | ⟨henabled, hfindings⟩
    · exact absurd hf List.not_mem_nil
    · exact ⟨henabled, found, hfindings, f, hf, hcode⟩
  · rintro ⟨henabled, found, hfound, f, hf, hcode⟩
    have hnode : nodeFindings ctx n = .ok found := by
      rw [nodeFindings, henabled]
      exact hfound
    exact ⟨⟨f, label n.category, n.id, n.name⟩,
      (hmem _).2 ⟨n, hn, found, hnode, mem_diagnose_iff.2 ⟨f, hf, rfl⟩⟩, rfl, hcode⟩

end FlowLint
