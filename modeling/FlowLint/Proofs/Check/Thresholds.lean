import FlowLint.Proofs.Check.Codes
import FlowLint.Proofs.Check.Gate
import FlowLint.Proofs.Check.Limits

/-!
# What the thresholds can change

Five thresholds go into the checks, and four of them only decide about warnings and hints. The
limit of language models is the one that decides about an error, and a higher limit can only take
that error away. The same limit also decides about a warning, which comes up when the error goes
away.

* **`Rules.Eases`**: what a higher limit makes of the errors among the findings in a node.
* **`Rules.eases_modelFindings`**: the one check in which the limit counts.
* **`Check.eases_findings`**, **`Check.nodes_ease`**: one node, and from it all nodes of a run.
* **`Check.thresholds_monotone`**: the errors of two runs with different thresholds.
-/

namespace FlowLint

/-- The code says that there are too many language models, but so many are not above the limit. -/
def Code.IsLifted (code : Code) (models limit : Nat) : Prop :=
  code = .tooManyLanguageModels ∧ models ≤ limit

instance (code : Code) (models limit : Nat) : Decidable (code.IsLifted models limit) :=
  inferInstanceAs (Decidable (_ ∧ _))

namespace Rules

/-- The findings that are errors. -/
def errors (found : List Finding) : List Finding :=
  found.filter (·.severity == .error)

theorem errors_append (found others : List Finding) :
    errors (found ++ others) = errors found ++ errors others :=
  List.filter_append ..

/-- The errors in a node with so many language models, under some settings and under others. The
same limit leaves them as they are, and a higher one lifts the error that there are too many models.
-/
structure Eases (s s' : Settings) (models : Nat) (found found' : List Finding) : Prop where
  errors_eq : s'.maxLanguageModels = s.maxLanguageModels → errors found' = errors found
  codes_eq : s.maxLanguageModels.value ≤ s'.maxLanguageModels.value →
    (errors found').map (·.code)
      = ((errors found).filter fun f => ¬ f.code.IsLifted models s'.maxLanguageModels.value).map
          (·.code)

namespace Eases

variable {s s' : Settings} {models : Nat} {found found' others others' : List Finding}

theorem append (h : Eases s s' models found found') (hothers : Eases s s' models others others') :
    Eases s s' models (found ++ others) (found' ++ others') where
  errors_eq heq := by
    rw [errors_append, errors_append, h.errors_eq heq, hothers.errors_eq heq]
  codes_eq hle := by
    rw [errors_append, errors_append, List.filter_append, List.map_append, List.map_append,
      h.codes_eq hle, hothers.codes_eq hle]

/-- A check in which no model is counted finds the same errors under all settings. -/
theorem of_errors_eq {codes : List Code} (hcodes : CodesIn codes found)
    (hother : .tooManyLanguageModels ∉ codes) (h : errors found' = errors found) :
    Eases s s' models found found' where
  errors_eq _ := h
  codes_eq _ := by
    have hstay : ∀ f ∈ errors found,
        decide (¬ f.code.IsLifted models s'.maxLanguageModels.value) = true := by
      intro f hf
      have hcode : f.code ∈ codes := hcodes f (List.mem_of_mem_filter hf)
      exact decide_eq_true fun hlifted => hother (hlifted.1 ▸ hcode)
    rw [h, List.filter_eq_self.2 hstay]

end Eases

/-! ## Check by check -/

section

variable (g : Graph) (node : Node) (s s' : Settings)

theorem modelFindings_of (t : Settings) :
    modelFindings (.of g t) node
      = if wired (.of g s) node .languageModel = 0 then [.error .agentWithoutModel]
        else if t.maxLanguageModels.value < wired (.of g s) node .languageModel then
          [.error (.tooManyModels (wired (.of g s) node .languageModel) t.maxLanguageModels.value)]
        else [] :=
  rfl

/-- **The number of language models** is an error when there are none, and when there are more than
the limit. -/
theorem eases_modelFindings :
    Eases s s' (wired (.of g s) node .languageModel) (modelFindings (.of g s) node)
      (modelFindings (.of g s') node) where
  errors_eq heq := by
    rw [modelFindings_of g node s s', modelFindings_of g node s s, heq]
  codes_eq hle := by
    rw [modelFindings_of g node s s', modelFindings_of g node s s]
    generalize wired (.of g s) node .languageModel = models
    by_cases hnone : models = 0
    · rw [if_pos hnone, if_pos hnone]
      rfl
    · rw [if_neg hnone, if_neg hnone]
      by_cases hmany : s.maxLanguageModels.value < models
      · by_cases hstill : s'.maxLanguageModels.value < models
        · have hstays : ¬ models ≤ s'.maxLanguageModels.value := by omega
          rw [if_pos hmany, if_pos hstill]
          simp [errors, Code.IsLifted, hstays]
        · have hlifted : models ≤ s'.maxLanguageModels.value := by omega
          rw [if_pos hmany, if_neg hstill]
          simp [errors, Code.IsLifted, hlifted]
      · have hstill : ¬ s'.maxLanguageModels.value < models := by omega
        rw [if_neg hmany, if_neg hstill]
        rfl

theorem errors_fallbackFindings :
    errors (fallbackFindings (.of g s') node) = errors (fallbackFindings (.of g s) node) := by
  -- the limit decides whether a second model is reported as unused, which is a warning
  have hwarning : ∀ unused : Prop, [Decidable unused] →
      errors (if unused then [.warning .fallbackNotEnabled] else []) = [] := by
    intro unused _
    split <;> rfl
  simp only [fallbackFindings, errors_append, hwarning]
  rfl

theorem errors_systemMessageFindings :
    errors (systemMessageFindings (.of g s) node) = [] := by
  simp only [systemMessageFindings]
  split
  · rfl
  · split <;> rfl

/-- A limit decides about a warning, so the errors of a check that holds it are the same. -/
theorem LimitCheck.errors_findings (check : LimitCheck) :
    errors (check.findings node s') = errors (check.findings node s) := by
  have hhigh : ∀ (n : Number) (bound : Nat),
      errors (if n.gtInt bound then [check.tooHigh n bound] else []) = [] := by
    intro n bound
    split
    · simp [errors, check.severity_tooHigh]
    · rfl
  rw [findings, findings]
  cases node.parameters.param? check.key with
  | none => rfl
  | some value =>
    dsimp only
    cases value.number? with
    | none => rfl
    | some n =>
      dsimp only
      by_cases hlow : n.ltInt 1 = true
      · rw [if_pos hlow, if_pos hlow]
      · rw [if_neg hlow, if_neg hlow, hhigh, hhigh]

theorem errors_iterationFindings :
    errors (iterationFindings node s') = errors (iterationFindings node s) :=
  LimitCheck.iterations.errors_findings node s s'

theorem errors_descriptionFindings :
    errors (descriptionFindings node s') = errors (descriptionFindings node s) := by
  simp only [descriptionFindings]
  split
  · rfl
  · split
    · rfl
    · split <;> split <;> rfl

theorem errors_topKFindings :
    errors (topKFindings node s') = errors (topKFindings node s) :=
  LimitCheck.topK.errors_findings node s s'

/-- Behind the checks of its models, thresholds decide about warnings and hints of an agent. -/
theorem errors_furtherFindings :
    errors (furtherFindings (.of g s') node) = errors (furtherFindings (.of g s) node) := by
  have hmessage : errors (systemMessageFindings (.of g s') node)
      = errors (systemMessageFindings (.of g s) node) := by
    rw [errors_systemMessageFindings, errors_systemMessageFindings]
  have hiterations := errors_iterationFindings node s s'
  unfold furtherFindings
  simp only [errors_append, Context.of_settings, hmessage, hiterations]
  rfl

/-- **Agents** are the nodes whose models are counted against the limit. -/
theorem eases_agentFindings :
    Eases s s' (wired (.of g s) node .languageModel) (agentFindings (.of g s) node)
      (agentFindings (.of g s') node) := by
  have hmodels := eases_modelFindings g node s s'
  rw [agentFindings_eq_append, agentFindings_eq_append]
  refine .append (.append hmodels ?_) ?_
  · exact .of_errors_eq (inOrder_fallbackFindings _ node).codesIn (by decide)
      (errors_fallbackFindings g node s s')
  · exact .of_errors_eq (inOrder_furtherFindings _ node).codesIn (by decide)
      (errors_furtherFindings g node s s')

end

/-- **Tools** are checked against three thresholds, and none of these decides about an error. -/
theorem errors_toolKindFindings {kind : ToolKind} {node : Node} {s s' : Settings}
    {found found' : List Finding} (h : toolKindFindings kind node s = .ok found)
    (h' : toolKindFindings kind node s' = .ok found') : errors found' = errors found := by
  have hdescribed := errors_descriptionFindings node s s'
  have hbehind : ∀ {own own' : List Finding}, errors own' = errors own →
      errors (descriptionFindings node s' ++ own') = errors (descriptionFindings node s ++ own) :=
    fun hown => by rw [errors_append, errors_append, hdescribed, hown]
  cases kind with
  | httpRequest =>
    obtain ⟨-, inUrl, used, hurl, hused, rfl⟩ := httpRequestFindings_eq_ok_iff.1 h
    obtain ⟨-, inUrl', used', hurl', hused', rfl⟩ := httpRequestFindings_eq_ok_iff.1 h'
    -- neither the URL nor the placeholders are looked at with the settings
    obtain rfl : inUrl = inUrl' := Except.ok.inj (hurl.symm.trans hurl')
    obtain rfl : used = used' := Except.ok.inj (hused.symm.trans hused')
    simp only [List.append_assoc]
    exact hbehind rfl
  | code =>
    obtain ⟨-, inSchema, hschema, rfl⟩ := codeFindings_eq_ok_iff.1 h
    obtain ⟨-, inSchema', hschema', rfl⟩ := codeFindings_eq_ok_iff.1 h'
    obtain rfl : inSchema = inSchema' := Except.ok.inj (hschema.symm.trans hschema')
    rw [List.append_assoc, List.append_assoc]
    exact hbehind rfl
  | vectorStore =>
    cases h
    cases h'
    exact hbehind (errors_topKFindings node s s')
  | agent =>
    cases h
    cases h'
    exact hbehind (errors_iterationFindings node s s')
  | calculator | think =>
    cases h
    cases h'
    rfl
  | workflow | mcpClient | serpApi | wikipedia | searXng | wolframAlpha =>
    cases h
    cases h'
    exact hbehind rfl

end Rules

/-! ## A run -/

/-- What is said about which node, without the facts that it rests on. -/
def Diagnostic.place (d : Diagnostic) : Code × Option String × String :=
  (d.code, d.nodeId, d.nodeName)

namespace Check

variable {g : Graph} {s s' : Settings}

theorem eases_findings {category : Category} {n : Node} {found found' : List Finding}
    (h : findings (.of g s) category n = .ok found)
    (h' : findings (.of g s') category n = .ok found') :
    Rules.Eases s s' (Rules.wired (.of g s) n .languageModel) found found' := by
  have hcodes := codesIn_findings h
  cases category with
  | agent =>
    obtain rfl := eq_agentFindings h
    obtain rfl := eq_agentFindings h'
    exact Rules.eases_agentFindings g n s s'
  | chatTrigger =>
    cases h
    cases h'
    exact .of_errors_eq hcodes (by decide) rfl
  | basicChain =>
    cases h
    cases h'
    exact .of_errors_eq hcodes (by decide) rfl
  | tool kind =>
    have hfound := toolKindFindings_of_findings h
    have hfound' := toolKindFindings_of_findings h'
    have hother : .tooManyLanguageModels ∉ Rules.toolCodes kind := by
      cases kind <;> decide
    exact .of_errors_eq hcodes hother (Rules.errors_toolKindFindings hfound hfound')
  | other =>
    cases h
    cases h'
    exact .of_errors_eq hcodes (by decide) rfl

/-- The errors of two runs over a graph, under some settings and under others. -/
structure Eases (g : Graph) (s s' : Settings) (ds ds' : List Diagnostic) : Prop where
  errors_eq : s'.maxLanguageModels = s.maxLanguageModels →
    ds'.filter (·.isError) = ds.filter (·.isError)
  places_eq : s.maxLanguageModels.value ≤ s'.maxLanguageModels.value →
    (ds'.filter (·.isError)).map (·.place)
      = ((ds.filter (·.isError)).filter fun d =>
          ¬ d.code.IsLifted ((ReverseIndex.build g).countInbound d.nodeName .languageModel)
            s'.maxLanguageModels.value).map (·.place)

theorem Eases.append {ds ds' es es' : List Diagnostic} (hd : Eases g s s' ds ds')
    (he : Eases g s s' es es') : Eases g s s' (ds ++ es) (ds' ++ es') where
  errors_eq heq := by
    rw [List.filter_append, List.filter_append, hd.errors_eq heq, he.errors_eq heq]
  places_eq hle := by
    rw [List.filter_append, List.filter_append, List.filter_append, List.map_append,
      List.map_append, hd.places_eq hle, he.places_eq hle]

theorem filter_isError_diagnose (n : Node) (label : String) (found : List Finding) :
    (n.diagnose label found).filter (·.isError) = n.diagnose label (Rules.errors found) :=
  List.filter_map

theorem map_place_diagnose (n : Node) (label : String) (found : List Finding) :
    (n.diagnose label found).map (·.place)
      = (found.map (·.code)).map fun code => (code, n.id, n.name) := by
  rw [Node.diagnose, List.map_map, List.map_map]
  rfl

theorem eases_diagnose {n : Node} {label : String} {found found' : List Finding}
    (h : Rules.Eases s s' (Rules.wired (.of g s) n .languageModel) found found') :
    Eases g s s' (n.diagnose label found) (n.diagnose label found') where
  errors_eq heq := by
    rw [filter_isError_diagnose, filter_isError_diagnose, h.errors_eq heq]
  places_eq hle := by
    -- the diagnostics of a node carry its name, so each is counted against the models of the node
    have hfilter : ∀ errors : List Finding, (n.diagnose label errors).filter (fun d =>
          ¬ d.code.IsLifted ((ReverseIndex.build g).countInbound d.nodeName .languageModel)
            s'.maxLanguageModels.value)
        = n.diagnose label (errors.filter fun f =>
          ¬ f.code.IsLifted (Rules.wired (.of g s) n .languageModel) s'.maxLanguageModels.value) :=
      fun errors => List.filter_map
    rw [filter_isError_diagnose, filter_isError_diagnose, hfilter, map_place_diagnose,
      map_place_diagnose, h.codes_eq hle]

theorem node_eases {n : Node} {ds ds' : List Diagnostic} (h : node (.of g s) n = .ok ds)
    (h' : node (.of g s') n = .ok ds') : Eases g s s' ds ds' := by
  rw [node_eq, Outcome.map_eq_ok_iff] at h h'
  obtain ⟨found, hfound, rfl⟩ := h
  obtain ⟨found', hfound', rfl⟩ := h'
  refine eases_diagnose ?_
  rw [nodeFindings] at hfound hfound'
  by_cases hdisabled : n.disabled = true
  · rw [if_pos hdisabled] at hfound hfound'
    cases hfound
    cases hfound'
    exact ⟨fun _ => rfl, fun _ => rfl⟩
  · rw [if_neg hdisabled] at hfound hfound'
    exact eases_findings hfound hfound'

/-- **All nodes**, one after the other. -/
theorem nodes_ease {ns : List Node} {ds ds' : List Diagnostic} (h : nodes (.of g s) ns = .ok ds)
    (h' : nodes (.of g s') ns = .ok ds') : Eases g s s' ds ds' := by
  induction ns generalizing ds ds' with
  | nil =>
    cases h
    cases h'
    exact ⟨fun _ => rfl, fun _ => rfl⟩
  | cons first rest ih =>
    obtain ⟨block, hblock, hrest⟩ := Outcome.bind_eq_ok_iff.1 h
    obtain ⟨block', hblock', hrest'⟩ := Outcome.bind_eq_ok_iff.1 h'
    obtain ⟨others, hothers, hds⟩ := Outcome.bind_eq_ok_iff.1 hrest
    obtain ⟨others', hothers', hds'⟩ := Outcome.bind_eq_ok_iff.1 hrest'
    cases hds
    cases hds'
    exact (node_eases hblock hblock').append (ih hothers hothers')

end Check

theorem Check.Eases.valid {g : Graph} {s s' : Settings} {ds ds' : List Diagnostic}
    (h : Eases g s s' ds ds') (hle : s.maxLanguageModels.value ≤ s'.maxLanguageModels.value)
    (hnone : ∀ d ∈ ds, d.severity ≠ .error) : ∀ d ∈ ds', d.severity ≠ .error := by
  have hbefore : ds.filter (·.isError) = [] :=
    List.filter_eq_nil_iff.2 fun d hd herror => hnone d hd (beq_iff_eq.1 herror)
  have hafter : ds'.filter (·.isError) = [] := by
    have hplaces := h.places_eq hle
    rw [hbefore] at hplaces
    exact List.map_eq_nil_iff.1 hplaces
  intro d hd herror
  exact List.filter_eq_nil_iff.1 hafter d hd (beq_iff_eq.2 herror)

/-- **The thresholds and the errors of a run.** Two runs with the same limit of language models give
the same errors, whatever the other thresholds are. Under a higher limit the errors are those from
before but for the nodes that no longer have too many models; so what was valid is valid. -/
theorem Check.thresholds_monotone (g : Graph) {s s' : Settings} {ds ds' : List Diagnostic}
    (h : graph g s = .ok ds) (h' : graph g s' = .ok ds') :
    (s'.maxLanguageModels = s.maxLanguageModels →
      ds'.filter (·.isError) = ds.filter (·.isError))
    ∧ (s.maxLanguageModels.value ≤ s'.maxLanguageModels.value →
      (ds'.filter (·.isError)).map (·.place)
          = ((ds.filter (·.isError)).filter fun d =>
              ¬ d.code.IsLifted ((ReverseIndex.build g).countInbound d.nodeName .languageModel)
                s'.maxLanguageModels.value).map (·.place)
        ∧ ∀ report report', Report.of g s = .ok report → Report.of g s' = .ok report' →
            report.valid = true → report'.valid = true) := by
  have hease : Eases g s s' ds ds' := nodes_ease h h'
  refine ⟨hease.errors_eq, fun hle => ⟨hease.places_eq hle, ?_⟩⟩
  intro report report' hreport hreport' hvalid
  rw [Report.of_eq_map, h] at hreport
  rw [Report.of_eq_map, h'] at hreport'
  cases hreport
  cases hreport'
  exact (Report.valid_iff_forall _).2 (hease.valid hle ((Report.valid_iff_forall _).1 hvalid))

/-- An agent with two models, neither of which is meant for a fallback, and a chain without one. -/
def Check.twoModels : Graph where
  name := none
  nodes := [agent, Report.loneChain]
  connections := [(.text "models", .map [(.text "ai_languageModel", .list [.list [entry, entry]])])]
  extra := []
where
  agent : Node :=
    ⟨none, "agent", NodeType.agentType, .null,
      [(.text "systemMessage", .text "Answer with patience.")], [], false, []⟩
  entry : Value := .map [(.text "node", .text "agent")]

/-- What is found when one model is the limit, and the error shows the limit. -/
def Check.twoModels.overLimit : List Diagnostic :=
  [⟨.error (.tooManyModels 2 1), "AI Agent", none, "agent"⟩,
    ⟨.info .noToolsConnected, "AI Agent", none, "agent"⟩,
    ⟨.error .chainWithoutModel, "Basic LLM Chain", some "1", "chain"⟩]

/-- What is found when two models are the limit. -/
def Check.twoModels.withinLimit : List Diagnostic :=
  [⟨.warning .fallbackNotEnabled, "AI Agent", none, "agent"⟩,
    ⟨.info .noToolsConnected, "AI Agent", none, "agent"⟩,
    ⟨.error .chainWithoutModel, "Basic LLM Chain", some "1", "chain"⟩]

theorem Check.twoModels.graph_eq :
    graph twoModels { maxLanguageModels := ⟨1, by decide⟩ } = .ok overLimit := by
  let tight : Context := .of twoModels { maxLanguageModels := ⟨1, by decide⟩ }
  have hshown : isWritable 1 = true := by
    rw [isWritable, decide_eq_true_iff, Nat.pow_eq]
    exact Nat.one_lt_pow (by decide) (by decide)
  have hnumeral : numeralFault? 1 = none := if_pos hshown
  have hworded : Rules.worded [.error (.tooManyModels 2 1), .info .noToolsConnected]
      = .ok [.error (.tooManyModels 2 1), .info .noToolsConnected] := by
    rw [Rules.worded_eq_ok_iff]
    simp [Finding.isWritable, Finding.fault?, Issue.fault?, hnumeral]
  have hagent : node tight agent = .ok [⟨.error (.tooManyModels 2 1), "AI Agent", none, "agent"⟩,
      ⟨.info .noToolsConnected, "AI Agent", none, "agent"⟩] := by
    have hfound : Rules.agentFindings tight agent
        = [.error (.tooManyModels 2 1), .info .noToolsConnected] := rfl
    have hcategory : agent.category = .agent := rfl
    rw [node_eq, nodeFindings, if_neg (by decide), hcategory, findings, hfound, hworded]
    rfl
  show nodes tight (agent :: _) = _
  rw [nodes, hagent]
  rfl

/-- With a limit of two models in place of one, a warning comes up where the error was. -/
theorem Check.thresholds_monotone_twoModels :
    graph twoModels { maxLanguageModels := ⟨1, by decide⟩ } = .ok twoModels.overLimit
    ∧ graph twoModels {} = .ok twoModels.withinLimit
    ∧ (twoModels.withinLimit.filter (·.isError)).map (·.place)
      = [(.missingLanguageModel, some "1", "chain")] := by
  have hrun : graph twoModels {} = .ok twoModels.withinLimit := rfl
  have hmonotone := thresholds_monotone twoModels twoModels.graph_eq hrun
  refine ⟨twoModels.graph_eq, hrun, ?_⟩
  rw [(hmonotone.2 (by decide)).1]
  rfl

end FlowLint
