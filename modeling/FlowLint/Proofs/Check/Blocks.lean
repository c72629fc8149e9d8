import FlowLint.Proofs.Check.Codes
import FlowLint.Proofs.Check.Gate
import FlowLint.Proofs.Wiring.Transpose

/-!
# Diagnostics node by node

The diagnostics of a run stand in blocks, one for each node that is checked, in the order of the
nodes. Within a block no code comes twice, as every check gives its codes in an order of its own
(`InOrder`). The exception is the check of a request, which names the placeholders that are not
defined and those that are not used one by one; there it is the names that do not come twice. The
checks of models overlap in what they ask, and for each number of models one of them at most finds
something.

* **`WithoutRepeats`**: what is found in a node says nothing twice. It is put together from checks
  with different codes by `WithoutRepeats.append`.
* **`Check.withoutRepeats_findings`**, **`Check.countP_aboutModels_le`**: the findings in a node.
* **`Check.exists_blocks`**: a run that returns is made of blocks.
* **`Check.severity_eq_of_mem`**: the code of a diagnostic decides its severity.
* **`Check.graph_without_repeats`**: so a report does not repeat itself.
-/

namespace FlowLint

/-- The code of a finding that there can be for each of many placeholders. -/
def Code.IsPerPlaceholder (code : Code) : Prop :=
  code = .undefinedPlaceholder ∨ code = .unusedPlaceholder

instance (code : Code) : Decidable code.IsPerPlaceholder :=
  inferInstanceAs (Decidable (_ ∨ _))

/-- The codes about the number of language models. -/
def Code.aboutModels : List Code :=
  [.missingLanguageModel, .tooManyLanguageModels, .multipleLanguageModels, .fallbackNotEnabled,
    .fallbackMissingSecondModel]

/-! ## Findings without repeats -/

/-- No two findings say the same, and those with one code are about placeholders. -/
structure WithoutRepeats (found : List Finding) : Prop where
  distinct : (found.map fun f => (f.code, f.statement)).Nodup
  once : ∀ code : Code, ¬ code.IsPerPlaceholder → found.countP (·.code = code) ≤ 1

theorem CodesIn.countP_eq_zero {codes : List Code} {found : List Finding} (h : CodesIn codes found)
    {code : Code} (hcode : code ∉ codes) : found.countP (·.code = code) = 0 := by
  rw [List.countP_eq_zero]
  intro f hf hsame
  exact hcode (of_decide_eq_true hsame ▸ h f hf)

namespace WithoutRepeats

variable {codes more : List Code} {found others : List Finding}

theorem of_inOrder (h : InOrder codes found) (hcodes : codes.Nodup) : WithoutRepeats found := by
  have hnodup : (found.map (·.code)).Nodup := hcodes.sublist h.sublist
  constructor
  · refine .of_map Prod.fst ?_
    rw [List.map_map]
    exact hnodup
  · intro code _
    have hcount := List.nodup_iff_count_le_one.1 hnodup code
    rwa [List.count, List.countP_map] at hcount

/-- Two checks with different codes repeat nothing when neither of them does. -/
theorem append (h : WithoutRepeats found) (hothers : WithoutRepeats others)
    (hcodes : CodesIn codes found) (hmore : CodesIn more others)
    (hother : ∀ code ∈ codes, code ∉ more) : WithoutRepeats (found ++ others) where
  distinct := by
    rw [List.map_append, List.nodup_append']
    refine ⟨h.distinct, hothers.distinct, fun pair hpair hpair' => ?_⟩
    obtain ⟨f, hf, rfl⟩ := List.mem_map.1 hpair
    obtain ⟨f', hf', hsame⟩ := List.mem_map.1 hpair'
    have hcode : f'.code = f.code := congrArg Prod.fst hsame
    exact hother f.code (hcodes f hf) (hcode ▸ hmore f' hf')
  once code hcode := by
    have hfirst := h.once code hcode
    have hsecond := hothers.once code hcode
    rw [List.countP_append]
    -- the code belongs to one of the two checks at most, so the other gives nothing with it
    by_cases hmem : code ∈ codes
    · have hnone := hmore.countP_eq_zero (hother code hmem)
      omega
    · have hnone := hcodes.countP_eq_zero hmem
      omega

end WithoutRepeats

namespace Rules

/-! ## Placeholders -/

theorem nodup_sortedNames (names : List String) : (sortedNames names).Nodup :=
  (List.mergeSort_perm _ _).nodup_iff.2 (ReverseIndex.nodup_eraseDups names)

theorem statement_undefinedPlaceholder_injective :
    Function.Injective fun name =>
      (Finding.error (.undefinedPlaceholder name)).statement := by
  intro name name' hsame
  exact (String.append_right_inj _).1 ((String.append_left_inj _).1 hsame)

theorem statement_unusedPlaceholder_injective :
    Function.Injective fun name =>
      (Finding.warning (.unusedPlaceholder name)).statement := by
  intro name name' hsame
  exact (String.append_right_inj _).1 ((String.append_left_inj _).1 hsame)

theorem codesIn_map {make : String → Finding} {code : Code} (names : List String)
    (hcode : ∀ name, (make name).code = code) : CodesIn [code] (names.map make) :=
  .map names fun name => List.mem_singleton.2 (hcode name)

theorem withoutRepeats_map {make : String → Finding} {code : Code} {names : List String}
    (hnames : names.Nodup) (hcode : ∀ name, (make name).code = code)
    (hplaceholder : code.IsPerPlaceholder)
    (hinjective : Function.Injective fun name => (make name).statement) :
    WithoutRepeats (names.map make) where
  distinct := by
    rw [List.map_map]
    exact hnames.map fun name name' hsame => hinjective (congrArg Prod.snd hsame)
  once other hother := by
    have hnone : other ∉ [code] := fun hmem =>
      hother (List.mem_singleton.1 hmem ▸ hplaceholder)
    have hzero := (codesIn_map names hcode).countP_eq_zero hnone
    omega

theorem withoutRepeats_placeholderFindings (node : Node) (used : List String) :
    WithoutRepeats (placeholderFindings node used) := by
  unfold placeholderFindings
  split
  · exact .of_inOrder (.nil []) .nil
  · split
    · have hone : InOrder [.missingPlaceholderDefinitions]
          [.warning .missingPlaceholderDefinitions] :=
        InOrder.singleton_iff.2 ⟨List.mem_singleton.2 rfl, rfl⟩
      exact .of_inOrder hone (List.nodup_singleton _)
    · next definitions _ =>
      let defined := definedPlaceholders definitions
      have hundefined : WithoutRepeats
          ((sortedNames (used.filter (!defined.contains ·))).map
            (.error <| .undefinedPlaceholder ·)) :=
        withoutRepeats_map (nodup_sortedNames _) (fun _ => rfl) (.inl rfl)
          statement_undefinedPlaceholder_injective
      have hunused : WithoutRepeats
          ((defined.eraseDups.filter (!used.contains ·)).map (.warning <| .unusedPlaceholder ·)) :=
        withoutRepeats_map ((ReverseIndex.nodup_eraseDups defined).filter _) (fun _ => rfl)
          (.inr rfl) statement_unusedPlaceholder_injective
      exact hundefined.append hunused (codesIn_map _ fun _ => rfl) (codesIn_map _ fun _ => rfl)
        (by decide)

/-- **A request** names its placeholders between checks with other codes. -/
theorem withoutRepeats_httpRequestFindings {node : Node} {settings : Settings}
    {found : List Finding} (h : httpRequestFindings node settings = .ok found) :
    WithoutRepeats found := by
  obtain ⟨-, inUrl, used, hurl, -, rfl⟩ := httpRequestFindings_eq_ok_iff.1 h
  -- only the codes of the placeholders can come twice, and no other check gives them
  have hbefore := (inOrder_descriptionFindings node settings).append (inOrder_urlFindings hurl)
  have hafter := ((inOrder_requestCredentialFindings node).append
    (inOrder_methodFindings (requestMethod node))).append
      (inOrder_bodyFindings node (requestMethod node))
  have hplaceholders := codesIn_placeholderFindings node used
  have hfirst := (WithoutRepeats.of_inOrder hbefore (by decide)).append
    (withoutRepeats_placeholderFindings node used) hbefore.codesIn hplaceholders (by decide)
  have hall := hfirst.append (.of_inOrder hafter (by decide))
    (AllFound.append_iff.2 ⟨hbefore.codesIn.mono (List.subset_append_left _ _),
      hplaceholders.mono (List.subset_append_right _ _)⟩) hafter.codesIn (by decide)
  simpa only [List.append_assoc] using hall

/-! ## Models

Whether there are too few or too many models, and whether the fallback fits their number, is asked
in two checks. With a limit of at least one model they do not meet. -/

theorem length_ite_le {c : Prop} [Decidable c] (f : Finding) :
    (if c then [f] else []).length ≤ 1 := by
  split
  · exact Nat.le_refl 1
  · exact Nat.zero_le 1

theorem length_modelFindings_le (ctx : Context) (node : Node) :
    (modelFindings ctx node ++ fallbackFindings ctx node).length ≤ 1 := by
  have hlimit := ctx.settings.maxLanguageModels.least_le
  simp only [modelFindings, fallbackFindings]
  generalize wired ctx node .languageModel = models
  by_cases hmissing : models = 1 ∧ needsFallback node = true
  -- one model is neither too few nor too many, and there is no second one
  · have hnone : models ≠ 0 := by omega
    have hmany : ¬ ctx.settings.maxLanguageModels.value < models := by omega
    have hunused : ¬ (models = 2 ∧ 2 ≤ ctx.settings.maxLanguageModels.value
        ∧ needsFallback node = false) := by omega
    rw [if_neg hnone, if_neg hmany, if_neg hunused, if_pos hmissing]
    exact Nat.le_refl 1
  · rw [if_neg hmissing, List.append_nil, List.length_append]
    by_cases hunused : models = 2 ∧ 2 ≤ ctx.settings.maxLanguageModels.value
        ∧ needsFallback node = false
    · have hnone : models ≠ 0 := by omega
      have hmany : ¬ ctx.settings.maxLanguageModels.value < models := by omega
      rw [if_neg hnone, if_neg hmany, if_pos hunused]
      exact Nat.le_refl 1
    · rw [if_neg hunused]
      split
      · exact Nat.le_refl 1
      · exact length_ite_le _

theorem length_chainModelFindings_le (ctx : Context) (node : Node) :
    (chainModelFindings ctx node).length ≤ 1 := by
  unfold chainModelFindings
  dsimp only
  split
  · exact Nat.le_refl 1
  · exact length_ite_le _

/-- Checks with other codes are not about the number of models. -/
theorem countP_aboutModels_eq_zero {codes : List Code} {found : List Finding}
    (h : CodesIn codes found) (hother : ∀ code ∈ codes, code ∉ Code.aboutModels) :
    found.countP (·.code ∈ Code.aboutModels) = 0 := by
  rw [List.countP_eq_zero]
  intro f hf hmem
  exact hother f.code (h f hf) (of_decide_eq_true hmem)

theorem countP_agentFindings_le (ctx : Context) (node : Node) :
    (agentFindings ctx node).countP (·.code ∈ Code.aboutModels) ≤ 1 := by
  have hmodels := length_modelFindings_le ctx node
  have hfurther := countP_aboutModels_eq_zero (inOrder_furtherFindings ctx node).codesIn (by decide)
  rw [agentFindings_eq_append, List.countP_append, hfurther]
  exact Nat.le_trans List.countP_le_length hmodels

theorem countP_chainFindings_le (ctx : Context) (node : Node) :
    (chainFindings ctx node).countP (·.code ∈ Code.aboutModels) ≤ 1 := by
  have hnone := countP_aboutModels_eq_zero (inOrder_promptFindings node).codesIn (by decide)
  rw [chainFindings, List.countP_append, hnone]
  exact Nat.le_trans List.countP_le_length (length_chainModelFindings_le ctx node)

end Rules

theorem Category.nodup_codes (category : Category) : category.codes.Nodup := by
  cases category with
  | tool kind => cases kind <;> decide
  | _ => decide

namespace Check

/-- **What is found in a node says nothing twice.** -/
theorem withoutRepeats_findings {ctx : Context} {category : Category} {n : Node}
    {found : List Finding} (h : findings ctx category n = .ok found) : WithoutRepeats found := by
  by_cases hcategory : category = .tool .httpRequest
  · subst hcategory
    exact Rules.withoutRepeats_httpRequestFindings (toolKindFindings_of_findings h)
  · exact .of_inOrder (inOrder_findings h hcategory) category.nodup_codes

theorem withoutRepeats_nodeFindings {ctx : Context} {n : Node} {found : List Finding}
    (h : nodeFindings ctx n = .ok found) : WithoutRepeats found := by
  rcases nodeFindings_cases h with rfl | ⟨-, hfindings⟩
  · exact .of_inOrder (.nil []) .nil
  · exact withoutRepeats_findings hfindings

/-- **One finding at most is about the number of models.** -/
theorem countP_aboutModels_le {ctx : Context} {category : Category} {n : Node}
    {found : List Finding} (h : findings ctx category n = .ok found) :
    found.countP (·.code ∈ Code.aboutModels) ≤ 1 := by
  cases category with
  | agent =>
    obtain rfl := eq_agentFindings h
    exact Rules.countP_agentFindings_le ctx n
  | basicChain =>
    cases h
    exact Rules.countP_chainFindings_le ctx n
  | chatTrigger =>
    have hnone := Rules.countP_aboutModels_eq_zero (codesIn_findings h) (by decide)
    omega
  | tool kind =>
    have hother : ∀ code ∈ (Category.tool kind).codes, code ∉ Code.aboutModels := by
      cases kind <;> decide
    have hnone := Rules.countP_aboutModels_eq_zero (codesIn_findings h) hother
    omega
  | other =>
    cases h
    exact Nat.zero_le 1

theorem countP_aboutModels_nodeFindings_le {ctx : Context} {n : Node} {found : List Finding}
    (h : nodeFindings ctx n = .ok found) : found.countP (·.code ∈ Code.aboutModels) ≤ 1 := by
  rcases nodeFindings_cases h with rfl | ⟨-, hfindings⟩
  · exact Nat.zero_le 1
  · exact countP_aboutModels_le hfindings

end Check

/-! ## Runs -/

/-- What is printed of a diagnostic. -/
def Diagnostic.fields (d : Diagnostic) : Severity × Code × String × Option String × String :=
  (d.severity, d.code, d.message, d.nodeId, d.nodeName)

theorem WithoutRepeats.nodup_diagnose {found : List Finding} (h : WithoutRepeats found) (n : Node)
    (label : String) : ((n.diagnose label found).map (·.fields)).Nodup := by
  have hpairs : found.Pairwise fun f f' => (f.code, f.statement) ≠ (f'.code, f'.statement) :=
    List.pairwise_map.1 h.distinct
  rw [Node.diagnose, List.map_map]
  refine List.pairwise_map.2 (hpairs.imp fun {f f'} hne hsame => hne ?_)
  -- within a block the messages differ in their statements only
  have hcode : f.code = f'.code := congrArg (·.2.1) hsame
  have hmessage : label ++ " \"" ++ n.name ++ "\" " ++ f.statement
      = label ++ " \"" ++ n.name ++ "\" " ++ f'.statement := congrArg (·.2.2.1) hsame
  exact Prod.ext hcode ((String.append_right_inj _).1 hmessage)

namespace Check

/-- The diagnostics of a run, block by block. -/
structure InBlocks (g : Graph) (settings : Settings) (ds : List Diagnostic)
    (block : Node → List Diagnostic) : Prop where
  joined : ds = g.nodes.flatMap block
  checked : ∀ n ∈ g.nodes, node (.of g settings) n = .ok (block n)
  own : ∀ n ∈ g.nodes, ∀ d ∈ block n,
    d.nodeId = n.id ∧ d.nodeName = n.name ∧ n.disabled = false ∧ n.category ≠ .other
  ordered : ∀ n ∈ g.nodes, n.category = .agent →
    ((block n).map (·.code)).Sublist Rules.agentCodes

/-- **A run that returns is made of blocks**, which are the findings in its nodes. -/
theorem exists_blocks {ctx : Context} {ns : List Node} {ds : List Diagnostic}
    (h : nodes ctx ns = .ok ds) :
    ∃ found : Node → List Finding, (∀ n ∈ ns, nodeFindings ctx n = .ok (found n))
      ∧ ds = ns.flatMap fun n => n.diagnose (label n.category) (found n) := by
  obtain ⟨hall, -⟩ := mem_of_nodes_eq_ok h
  choose! found hfound using hall
  refine ⟨found, hfound, ?_⟩
  have hblocks : ∀ n ∈ ns, node ctx n = .ok (n.diagnose (label n.category) (found n)) := by
    intro n hn
    rw [node_eq, hfound n hn]
    rfl
  exact Except.ok.inj (h.symm.trans (nodes_eq_ok_of_blocks hblocks))

/-- The diagnostics that carry the name of a node are its block, when no other node has the name. -/
theorem filter_nodeName_flatMap {ns : List Node} (hnames : (ns.map (·.name)).Nodup)
    {block : Node → List Diagnostic} (hblock : ∀ n ∈ ns, ∀ d ∈ block n, d.nodeName = n.name)
    {n : Node} (hn : n ∈ ns) : (ns.flatMap block).filter (·.nodeName = n.name) = block n := by
  induction ns with
  | nil => exact absurd hn List.not_mem_nil
  | cons first rest ih =>
    obtain ⟨hfirst, hrest⟩ := List.forall_mem_cons.1 hblock
    obtain ⟨hnew, hnames⟩ := List.nodup_cons.1 hnames
    rw [List.flatMap_cons, List.filter_append]
    rcases List.mem_cons.1 hn with rfl | hn
    · have hown : (block n).filter (·.nodeName = n.name) = block n :=
        List.filter_eq_self.2 fun d hd => decide_eq_true (hfirst d hd)
      have hothers : (rest.flatMap block).filter (·.nodeName = n.name) = [] := by
        refine List.filter_eq_nil_iff.2 fun d hd hname => hnew ?_
        obtain ⟨other, hother, hd⟩ := List.mem_flatMap.1 hd
        have hname : other.name = n.name :=
          (hrest other hother d hd).symm.trans (of_decide_eq_true hname)
        exact List.mem_map.2 ⟨other, hother, hname⟩
      rw [hown, hothers, List.append_nil]
    · have hothers : (block first).filter (·.nodeName = n.name) = [] := by
        refine List.filter_eq_nil_iff.2 fun d hd hname => hnew ?_
        have hname : n.name = first.name := (of_decide_eq_true hname).symm.trans (hfirst d hd)
        exact List.mem_map.2 ⟨n, hn, hname⟩
      rw [hothers, List.nil_append, ih hnames hrest hn]

/-- Counting by codes what carries the name of a node is counting its findings. -/
theorem countP_nodeName_flatMap {ns : List Node} (hnames : (ns.map (·.name)).Nodup)
    (found : Node → List Finding) {n : Node} (hn : n ∈ ns) (P : Code → Prop) [DecidablePred P] :
    (ns.flatMap fun n => n.diagnose (label n.category) (found n)).countP
        (fun d => d.nodeName = n.name ∧ P d.code)
      = (found n).countP fun f => P f.code := by
  have hown : ∀ m ∈ ns, ∀ d ∈ m.diagnose (label m.category) (found m), d.nodeName = m.name := by
    intro m _ d hd
    obtain ⟨f, -, rfl⟩ := mem_diagnose_iff.1 hd
    rfl
  have hfilter : ∀ ds : List Diagnostic, ds.countP (fun d => d.nodeName = n.name ∧ P d.code)
      = (ds.filter (·.nodeName = n.name)).countP fun d => P d.code := by
    intro ds
    rw [List.countP_filter]
    refine List.countP_congr fun d _ => ?_
    rw [decide_eq_true_iff, Bool.and_eq_true, decide_eq_true_iff, decide_eq_true_iff, and_comm]
  rw [hfilter, filter_nodeName_flatMap hnames hown hn, Node.diagnose, List.countP_map]
  rfl

theorem nodup_fields_flatMap {ns : List Node} (hnames : (ns.map (·.name)).Nodup)
    {found : Node → List Finding} (hfound : ∀ n ∈ ns, WithoutRepeats (found n)) :
    ((ns.flatMap fun n => n.diagnose (label n.category) (found n)).map (·.fields)).Nodup := by
  rw [List.map_flatMap, List.nodup_flatMap]
  -- blocks of different nodes have no diagnostic in common, as the names differ
  refine ⟨fun n hn => (hfound n hn).nodup_diagnose n _, ?_⟩
  refine (List.pairwise_map.1 hnames).imp fun {n m} hne fields hmem hmem' => hne ?_
  obtain ⟨d, hd, rfl⟩ := List.mem_map.1 hmem
  obtain ⟨d', hd', hsame⟩ := List.mem_map.1 hmem'
  obtain ⟨f, -, rfl⟩ := mem_diagnose_iff.1 hd
  obtain ⟨f', -, rfl⟩ := mem_diagnose_iff.1 hd'
  have hname : m.name = n.name := congrArg (·.2.2.2.2) hsame
  exact hname.symm

theorem inBlocks_of_found {g : Graph} {settings : Settings} {found : Node → List Finding}
    (hfound : ∀ n ∈ g.nodes, nodeFindings (.of g settings) n = .ok (found n)) :
    InBlocks g settings (g.nodes.flatMap fun n => n.diagnose (label n.category) (found n))
      fun n => n.diagnose (label n.category) (found n) where
  joined := rfl
  checked n hn := by
    rw [node_eq, hfound n hn]
    rfl
  own n hn d hd := by
    obtain ⟨f, hf, rfl⟩ := mem_diagnose_iff.1 hd
    rcases nodeFindings_cases (hfound n hn) with hnone | ⟨henabled, hfindings⟩
    · rw [hnone] at hf
      exact absurd hf List.not_mem_nil
    · refine ⟨rfl, rfl, henabled, fun hcategory => ?_⟩
      -- nodes without a category of interest give nothing
      rw [hcategory] at hfindings
      have hnone : found n = [] := (Except.ok.inj hfindings).symm
      rw [hnone] at hf
      exact List.not_mem_nil hf
  ordered n hn hcategory := by
    have hcodes : ((n.diagnose (label n.category) (found n)).map (·.code))
        = (found n).map (·.code) := by
      rw [Node.diagnose, List.map_map]
      rfl
    rw [hcodes]
    rcases nodeFindings_cases (hfound n hn) with hnone | ⟨-, hfindings⟩
    · rw [hnone]
      exact List.nil_sublist _
    · rw [hcategory] at hfindings
      exact (inOrder_findings hfindings (by decide)).sublist

theorem graded_nodeFindings {ctx : Context} {n : Node} {found : List Finding}
    (h : nodeFindings ctx n = .ok found) : Graded found := by
  rcases nodeFindings_cases h with rfl | ⟨-, hfindings⟩
  · exact .nil _
  · exact graded_findings hfindings

/-- **The code of a diagnostic decides its severity**, in every run. -/
theorem severity_eq_of_mem {ctx : Context} {ns : List Node} {ds : List Diagnostic}
    (h : nodes ctx ns = .ok ds) {d : Diagnostic} (hd : d ∈ ds) : d.severity = d.code.severity := by
  obtain ⟨-, hmem⟩ := mem_of_nodes_eq_ok h
  obtain ⟨n, -, found, hfound, hdiagnose⟩ := (hmem d).1 hd
  obtain ⟨f, hf, rfl⟩ := mem_diagnose_iff.1 hdiagnose
  exact graded_nodeFindings hfound f hf

/-- **A report does not repeat itself.** No two diagnostics of a run are the same. A node gets each
code once, apart from those that are given placeholder by placeholder, and one about the number of
its models. Two diagnostics with one code have one severity, whichever checks have given it to them.
The diagnostics stand in blocks, in the order of the nodes, and those of an agent in the order of
its checks. -/
theorem graph_without_repeats (g : Graph) (hnames : g.NamesDistinct) (settings : Settings)
    (ds : List Diagnostic) (h : graph g settings = .ok ds) :
    (ds.map (·.fields)).Nodup
    ∧ (∀ n ∈ g.nodes, ∀ code : Code, ¬ code.IsPerPlaceholder →
        ds.countP (fun d => d.nodeName = n.name ∧ d.code = code) ≤ 1)
    ∧ (∀ n ∈ g.nodes,
        ds.countP (fun d => d.nodeName = n.name ∧ d.code ∈ Code.aboutModels) ≤ 1)
    ∧ (∀ d ∈ ds, ∀ other ∈ ds, d.code = other.code → d.severity = other.severity)
    ∧ ∃ block, InBlocks g settings ds block := by
  obtain ⟨found, hfound, rfl⟩ := exists_blocks h
  have hblocks := inBlocks_of_found hfound
  have hrepeats : ∀ n ∈ g.nodes, WithoutRepeats (found n) := fun n hn =>
    withoutRepeats_nodeFindings (hfound n hn)
  refine ⟨nodup_fields_flatMap hnames hrepeats, fun n hn code hcode => ?_, fun n hn => ?_,
    fun d hd other hother hcode => ?_, _, inBlocks_of_found hfound⟩
  · rw [countP_nodeName_flatMap hnames found hn (· = code)]
    exact (hrepeats n hn).once code hcode
  · rw [countP_nodeName_flatMap hnames found hn (· ∈ Code.aboutModels)]
    exact countP_aboutModels_nodeFindings_le (hfound n hn)
  · rw [severity_eq_of_mem h hd, severity_eq_of_mem h hother, hcode]

/-- A chain and an agent that lack the same, and an agent that is not at work. -/
def modelless : Graph :=
  ⟨none, [Report.loneChain, helper, Report.restingAgent], [], []⟩
where
  helper : Node := { Report.restingAgent with name := "helper", disabled := false }

/-- What is found in the chain, and then in the agent that is at work. -/
def modelless.diagnostics : List Diagnostic :=
  [⟨.error .chainWithoutModel, "Basic LLM Chain", some "1", "chain"⟩,
    ⟨.error .agentWithoutModel, "AI Agent", some "2", "helper"⟩,
    ⟨.info .missingSystemMessage, "AI Agent", some "2", "helper"⟩,
    ⟨.info .noToolsConnected, "AI Agent", some "2", "helper"⟩]

/-- The chain and the agent get one code each from their own checks. -/
theorem graph_without_repeats_modelless :
    modelless.NamesDistinct ∧ graph modelless {} = .ok modelless.diagnostics
    ∧ (modelless.diagnostics.map (·.fields)).Nodup
    ∧ modelless.diagnostics.countP
        (fun d => d.nodeName = "helper" ∧ d.code = .missingLanguageModel) ≤ 1
    ∧ ∃ block, InBlocks modelless {} modelless.diagnostics block := by
  have hnames : modelless.NamesDistinct := by
    unfold Graph.NamesDistinct
    decide
  have hrun : graph modelless {} = .ok modelless.diagnostics := rfl
  have hhelper : modelless.helper ∈ modelless.nodes := .tail _ (.head _)
  obtain ⟨hnodup, honce, -, -, hblocks⟩ :=
    graph_without_repeats modelless hnames {} modelless.diagnostics hrun
  exact ⟨hnames, hrun, hnodup,
    honce modelless.helper hhelper .missingLanguageModel (by decide), hblocks⟩

end Check

end FlowLint
