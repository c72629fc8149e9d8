import FlowLint.Proofs.Check.Noninterference

/-!
# Nodes are read by key

A check knows the parameters and the credentials of a node by looking keys up. Most parameters are
looked up at the top. A few are options, which are looked up at the top and then among the members
of `options`, and `options` itself is looked up for nothing else. So it does not matter how the
members of a node are laid out, as long as the same lookups lead to the same values. There is one
exception: a request asks whether it has credentials at all.

* **`Node.ReadsAlike`**: nodes in which lookups lead to the same.
* **`Node.ReadsAlike.findings_eq`**: the same is found in them, check by check.
* **`Node.ReadsAlike.seenAlike`**: other nodes cannot tell them apart.
* **`Check.node_eq_of_readsAlike`**: they give the same.
-/

namespace FlowLint

/-- An option is looked up at the top, and then among the members of `options`. -/
theorem Members.option?_eq (members : Members) (key : String) :
    members.option? key
      = (members.param? key <|> (members.param? "options").bind (·.param? key)) :=
  rfl

/-- The parameters that are options. -/
def Rules.optionKeys : List String := ["systemMessage", "responseMode"]

/-- Nodes that are called and classified alike, and in which lookups lead to the same. -/
structure Node.ReadsAlike (node node' : Node) : Prop where
  id_eq : node'.id = node.id
  name_eq : node'.name = node.name
  type_eq : node'.type = node.type
  disabled_eq : node'.disabled = node.disabled
  param_eq : ∀ key, key ≠ "options" → key ∉ Rules.optionKeys →
    node'.parameters.param? key = node.parameters.param? key
  option_eq : ∀ key ∈ Rules.optionKeys,
    node'.parameters.option? key = node.parameters.option? key
  credential_eq : ∀ key, node'.credentials.param? key = node.credentials.param? key

namespace Node.ReadsAlike

open Rules

variable {node node' : Node} (h : node.ReadsAlike node')

include h

theorem category_eq : node'.category = node.category := by
  rw [Node.category, Node.category, h.type_eq]

/-! ## Check by check -/

theorem responseMode_eq : responseMode node' = responseMode node := by
  rw [responseMode, responseMode, h.option_eq "responseMode" (by decide)]

theorem promptFindings_eq : promptFindings node' = promptFindings node := by
  unfold promptFindings
  simp (disch := decide) only [h.param_eq]

theorem iterationFindings_eq (settings : Settings) :
    iterationFindings node' settings = iterationFindings node settings := by
  unfold iterationFindings
  simp (disch := decide) only [h.param_eq]

theorem descriptionFindings_eq (settings : Settings) :
    descriptionFindings node' settings = descriptionFindings node settings := by
  unfold descriptionFindings
  simp (disch := decide) only [h.param_eq]

theorem streamingFindings_eq (ctx : Context) :
    streamingFindings ctx node' = streamingFindings ctx node := by
  have htarget : isStreamingTarget ctx node' = isStreamingTarget ctx node := by
    rw [isStreamingTarget, isStreamingTarget, h.name_eq]
  rw [streamingFindings, streamingFindings, htarget, h.name_eq]

theorem agentFindings_eq (ctx : Context) : agentFindings ctx node' = agentFindings ctx node := by
  have hwired : wired ctx node' = wired ctx node := by
    funext port
    rw [wired, wired, h.name_eq]
  have hfallback : needsFallback node' = needsFallback node := by
    rw [needsFallback, needsFallback, h.param_eq "needsFallback" (by decide) (by decide)]
  have hparser : asksForParser node' = asksForParser node := by
    rw [asksForParser, asksForParser, h.param_eq "hasOutputParser" (by decide) (by decide)]
  unfold agentFindings modelFindings fallbackFindings parserFindings systemMessageFindings
    memoryFindings toolFindings
  rw [hwired, hfallback, hparser, h.option_eq "systemMessage" (by decide), h.promptFindings_eq,
    h.streamingFindings_eq, h.iterationFindings_eq]

theorem chainFindings_eq (ctx : Context) : chainFindings ctx node' = chainFindings ctx node := by
  rw [chainFindings, chainFindings, chainModelFindings, chainModelFindings, h.name_eq,
    h.promptFindings_eq]

theorem chatTriggerFindings_eq (ctx : Context) :
    chatTriggerFindings ctx node' = chatTriggerFindings ctx node := by
  unfold chatTriggerFindings
  rw [h.name_eq, h.responseMode_eq]

/-! ### Tools -/

theorem requiredFindings_eq {key : String} (hplace : key ≠ "options") (hkey : key ∉ optionKeys)
    (finding : Finding) :
    requiredFindings node' key finding = requiredFindings node key finding := by
  rw [requiredFindings, requiredFindings, h.param_eq key hplace hkey]

theorem credentialFindings_eq (keys : List String) (use : CredentialUse) :
    credentialFindings node' keys use = credentialFindings node keys use := by
  simp only [credentialFindings, h.credential_eq]

theorem codeFindings_eq (settings : Settings) :
    codeFindings node' settings = codeFindings node settings := by
  have hschema : schemaFindings node' = schemaFindings node := by
    unfold schemaFindings
    simp (disch := decide) only [h.param_eq]
  rw [codeFindings, codeFindings, h.descriptionFindings_eq, hschema,
    h.requiredFindings_eq (by decide) (by decide)]

/-- Of all that is found in a request, only what is found in its credentials does not go by keys. -/
theorem httpRequestFindings_eq (settings : Settings) :
    httpRequestFindings node' settings = do
      let described ← worded (descriptionFindings node settings)
      let inUrl ← urlFindings node
      let used ← usedPlaceholders node
      return described
        ++ inUrl
        ++ placeholderFindings node used
        ++ requestCredentialFindings node'
        ++ methodFindings (requestMethod node)
        ++ bodyFindings node (requestMethod node) := by
  have hurl : urlFindings node' = urlFindings node := by
    unfold urlFindings
    simp (disch := decide) only [h.param_eq]
  have hused : usedPlaceholders node' = usedPlaceholders node := by
    unfold usedPlaceholders
    simp (disch := decide) only [h.param_eq]
  have hdefined : placeholderFindings node' = placeholderFindings node := by
    unfold placeholderFindings
    simp (disch := decide) only [h.param_eq]
  have hmethod : requestMethod node' = requestMethod node := by
    unfold requestMethod
    simp (disch := decide) only [h.param_eq]
  have hbody : bodyFindings node' = bodyFindings node := by
    unfold bodyFindings lacksBody
    simp (disch := decide) only [h.param_eq]
  rw [httpRequestFindings, h.descriptionFindings_eq, hurl, hused, hdefined, hmethod, hbody]

/-- All tools but the request go by keys alone. -/
theorem toolKindFindings_eq {kind : ToolKind}
    (hrequest : kind = .httpRequest →
      requestCredentialFindings node' = requestCredentialFindings node) (settings : Settings) :
    toolKindFindings kind node' settings = toolKindFindings kind node settings := by
  unfold toolKindFindings
  rw [h.descriptionFindings_eq]
  cases kind with
  | httpRequest =>
    show httpRequestFindings node' settings = httpRequestFindings node settings
    rw [h.httpRequestFindings_eq, hrequest rfl, httpRequestFindings]
  | code => exact h.codeFindings_eq settings
  | vectorStore =>
    have htopK : topKFindings node' settings = topKFindings node settings := by
      unfold topKFindings
      simp (disch := decide) only [h.param_eq]
    dsimp only
    rw [htopK]
  | workflow =>
    dsimp only
    rw [h.requiredFindings_eq (by decide) (by decide)]
  | agent =>
    dsimp only
    rw [h.iterationFindings_eq]
  | mcpClient =>
    have hserver : serverFindings node' = serverFindings node := by
      unfold serverFindings
      simp (disch := decide) only [h.param_eq]
    dsimp only
    rw [hserver]
  | calculator => rfl
  | think => rfl
  | serpApi =>
    dsimp only
    rw [h.credentialFindings_eq]
  | wikipedia =>
    have hlanguage : languageFindings node' = languageFindings node := by
      unfold languageFindings
      simp (disch := decide) only [h.param_eq]
    dsimp only
    rw [hlanguage]
  | searXng =>
    dsimp only
    rw [h.requiredFindings_eq (by decide) (by decide)]
  | wolframAlpha =>
    dsimp only
    rw [h.credentialFindings_eq]

/-! ## The node as a whole -/

/-- **The same is found in nodes that read alike.** -/
theorem findings_eq (ctx : Context) {category : Category}
    (hrequest : category = .tool .httpRequest →
      requestCredentialFindings node' = requestCredentialFindings node) :
    Check.findings ctx category node' = Check.findings ctx category node := by
  cases category with
  | agent => rw [Check.findings, Check.findings, h.agentFindings_eq]
  | chatTrigger => rw [Check.findings, Check.findings, h.chatTriggerFindings_eq]
  | basicChain => rw [Check.findings, Check.findings, h.chainFindings_eq]
  | tool kind =>
    rw [Check.findings, Check.findings,
      h.toolKindFindings_eq fun hkind => hrequest (congrArg Category.tool hkind)]
  | other => rfl

/-- **Nodes that read alike are seen alike**: of the parameters of other nodes, a check looks at the
response mode only. -/
theorem seenAlike : node.SeenAlike node' :=
  ⟨h.name_eq, h.type_eq, fun _ => h.disabled_eq, fun _ => h.responseMode_eq⟩

end Node.ReadsAlike

/-- **Nodes that read alike give the same**, the same diagnostics or the same fault, as long as a
request at work is found to have its credentials in both or in none. -/
theorem Check.node_eq_of_readsAlike {n n' : Node} (h : n.ReadsAlike n')
    (hrequest : n.disabled = false → n.category = .tool .httpRequest →
      Rules.requestCredentialFindings n' = Rules.requestCredentialFindings n) (ctx : Context) :
    node ctx n' = node ctx n := by
  have hfound : nodeFindings ctx n' = nodeFindings ctx n := by
    rw [nodeFindings, nodeFindings, h.disabled_eq, h.category_eq]
    by_cases hdisabled : n.disabled = true
    · rw [if_pos hdisabled, if_pos hdisabled]
    · rw [if_neg hdisabled, if_neg hdisabled, h.findings_eq ctx]
      exact hrequest (Bool.eq_false_iff.2 hdisabled)
  have hdiagnose : n'.diagnose = n.diagnose := by
    funext label found
    rw [Node.diagnose, Node.diagnose, h.id_eq, h.name_eq]
  rw [node_eq, node_eq, hfound, hdiagnose, h.category_eq]

end FlowLint
