import FlowLint.Proofs.Check.Codes

/-!
# Nodes that look the same to the checks

Two runs are compared node by node. The check of a node reads the node itself, and of its
surroundings only a little: how many edges lead into the node on each port, whether an answer is
streamed to it, whether it has main outputs, and, for a chat trigger, what its first main target is.
Where two nodes agree in this, the checks find the same in both. A name is shown in two findings
only, so that nodes can be compared whose names or types are written differently.

* **`Issue.retarget`**: an issue with the node that it shows renamed and the type respelled.
* **`Check.Matches`**: what is read of a node and its surroundings. Nothing else decides what the
  node gives (**`Check.Matches.node_eq`**), and so what a run gives
  (**`Check.nodes_eq_of_matches`**).
* **`Graph.Mirrors`**: graphs whose edges and names lead to the same, up to a renaming. A node that
  stands in one of them has its match in the other (**`Graph.Mirrors.matches_of_replaces`**).
* **`Check.Alike.nodes_eq`**: a run rests on little of a graph beside its nodes.
-/

namespace FlowLint

/-- What the check of a node reads of it beside its name and its category is the same. -/
structure Node.SameContents (node node' : Node) : Prop where
  id_eq : node'.id = node.id
  parameters_eq : node'.parameters = node.parameters
  credentials_eq : node'.credentials = node.credentials
  disabled_eq : node'.disabled = node.disabled

theorem Node.SameContents.refl (node : Node) : node.SameContents node :=
  ⟨rfl, rfl, rfl, rfl⟩

/-! ## Findings that show another node -/

/-- The issue with the node that it shows renamed and the type that it shows respelled. -/
def Issue.retarget (rename respell : String → String) : Issue → Issue
  | .streamingWrongTarget target type => .streamingWrongTarget (rename target) (respell type)
  | .streamingAgentHasOutput target => .streamingAgentHasOutput (rename target)
  | issue => issue

/-- The finding of the same severity with its issue retargeted. -/
def Finding.retarget (rename respell : String → String) (finding : Finding) : Finding :=
  { finding with issue := finding.issue.retarget rename respell }

/-- The diagnostic with the nodes that it shows renamed and the type respelled. -/
def Diagnostic.retarget (rename respell : String → String) (d : Diagnostic) : Diagnostic :=
  { d with finding := d.finding.retarget rename respell, nodeName := rename d.nodeName }

namespace Issue

variable {rename respell : String → String}

theorem code_retarget (issue : Issue) : (issue.retarget rename respell).code = issue.code := by
  cases issue <;> rfl

theorem retarget_id (issue : Issue) : issue.retarget id id = issue := by
  cases issue <;> rfl

/-- Only issues of two codes show another node. -/
theorem retarget_eq_self {issue : Issue} (hwrong : issue.code ≠ .streamingWrongTarget)
    (houtput : issue.code ≠ .streamingAgentHasOutput) :
    issue.retarget rename respell = issue := by
  cases issue with
  | streamingWrongTarget target type => exact absurd rfl hwrong
  | streamingAgentHasOutput target => exact absurd rfl houtput
  | _ => rfl

end Issue

namespace Finding

variable {rename respell : String → String}

@[simp] theorem code_retarget (finding : Finding) :
    (finding.retarget rename respell).code = finding.code :=
  finding.issue.code_retarget

@[simp] theorem retarget_id (finding : Finding) : finding.retarget id id = finding := by
  rw [retarget, Issue.retarget_id]

theorem retarget_eq_self {finding : Finding} (hwrong : finding.code ≠ .streamingWrongTarget)
    (houtput : finding.code ≠ .streamingAgentHasOutput) :
    finding.retarget rename respell = finding := by
  rw [retarget, Issue.retarget_eq_self hwrong houtput]

end Finding

namespace Diagnostic

@[simp] theorem retarget_id (d : Diagnostic) : d.retarget id id = d := by
  simp [retarget]

@[simp] theorem code_retarget (rename respell : String → String) (d : Diagnostic) :
    (d.retarget rename respell).code = d.code :=
  d.finding.code_retarget

@[simp] theorem severity_retarget (rename respell : String → String) (d : Diagnostic) :
    (d.retarget rename respell).severity = d.severity :=
  rfl

end Diagnostic

namespace Rules

/-- The node that the first main target of a node names. -/
def firstNode? (ctx : Context) (node : Node) : Option Node :=
  (ctx.graph.mainTargets node.name).head?.bind fun first => ctx.graph.node? first.node

/-- The check of a chat trigger asks whether there are main targets and what the first one is. -/
theorem chatTriggerFindings_eq (ctx : Context) (node : Node) :
    chatTriggerFindings ctx node
      = if ctx.graph.mainTargets node.name = [] then [.error .missingConnections]
        else (firstNode? ctx node).elim [] (targetFindings ctx (responseMode node)) := by
  unfold chatTriggerFindings firstNode?
  cases ctx.graph.mainTargets node.name with
  | nil => rfl
  | cons first rest =>
    rw [if_neg (List.cons_ne_nil _ _), List.head?_cons, Option.bind_some]
    dsimp only
    cases ctx.graph.node? first.node <;> rfl

end Rules

namespace Check

/-! ## What the checks read -/

variable {rename respell : String → String}

/-- A node and the one in its place are the same as first targets of a chat trigger. -/
structure TargetMatches (rename respell : String → String) (ctx ctx' : Context)
    (target target' : Node) : Prop where
  name_eq : target'.name = rename target.name
  type_eq : target'.type = respell target.type
  category_eq : target'.category = target.category
  outputs_iff : ctx'.graph.mainTargets target'.name = [] ↔ ctx.graph.mainTargets target.name = []

/-- A node and the one in its place look the same to the checks, each in its surroundings. -/
structure Matches (rename respell : String → String) (ctx ctx' : Context) (node node' : Node) :
    Prop where
  settings_eq : ctx'.settings = ctx.settings
  name_eq : node'.name = rename node.name
  category_eq : node'.category = node.category
  contents : node.SameContents node'
  wired_eq : Rules.wired ctx' node' = Rules.wired ctx node
  streamed_eq : Rules.isStreamingTarget ctx' node' = Rules.isStreamingTarget ctx node
  outputs_iff : ctx'.graph.mainTargets node'.name = [] ↔ ctx.graph.mainTargets node.name = []
  first_rel : node.category = .chatTrigger →
    Option.Rel (TargetMatches rename respell ctx ctx') (Rules.firstNode? ctx node)
      (Rules.firstNode? ctx' node')

/-- The check of a tool reads the contents of its node. -/
theorem toolKindFindings_congr {node node' : Node} (h : node.SameContents node') (kind : ToolKind)
    (settings : Settings) :
    Rules.toolKindFindings kind node' settings = Rules.toolKindFindings kind node settings := by
  obtain ⟨_, _, _, _, parameters, credentials, _, _⟩ := node
  obtain ⟨_, _, _, _, parameters', credentials', _, _⟩ := node'
  obtain rfl : parameters' = parameters := h.parameters_eq
  obtain rfl : credentials' = credentials := h.credentials_eq
  cases kind <;> rfl

theorem TargetMatches.targetFindings_eq {ctx ctx' : Context} {target target' : Node}
    (h : TargetMatches rename respell ctx ctx' target target') (mode : String) :
    Rules.targetFindings ctx' mode target'
      = (Rules.targetFindings ctx mode target).map (.retarget rename respell) := by
  have hagent : target'.isAgent = target.isAgent := by
    rw [Node.isAgent, Node.isAgent, h.category_eq]
  have houtputs : (ctx'.graph.mainTargets target'.name).isEmpty
      = (ctx.graph.mainTargets target.name).isEmpty := by
    rw [Bool.eq_iff_iff, List.isEmpty_iff, List.isEmpty_iff, h.outputs_iff]
  unfold Rules.targetFindings
  rw [hagent, houtputs, h.name_eq, h.type_eq]
  split
  · split
    · rfl
    · split <;> rfl
  · split <;> rfl

namespace Matches

variable {ctx ctx' : Context} {node node' : Node} (h : Matches rename respell ctx ctx' node node')

include h

/-! ### Check by check -/

theorem streamingFindings_eq :
    Rules.streamingFindings ctx' node' = Rules.streamingFindings ctx node := by
  have houtputs : (ctx'.graph.mainTargets node'.name).isEmpty
      = (ctx.graph.mainTargets node.name).isEmpty := by
    rw [Bool.eq_iff_iff, List.isEmpty_iff, List.isEmpty_iff, h.outputs_iff]
  rw [Rules.streamingFindings, Rules.streamingFindings, h.streamed_eq, houtputs]

theorem agentFindings_eq : Rules.agentFindings ctx' node' = Rules.agentFindings ctx node := by
  have hfallback : Rules.needsFallback node' = Rules.needsFallback node := by
    rw [Rules.needsFallback, Rules.needsFallback, h.contents.parameters_eq]
  have hparser : Rules.asksForParser node' = Rules.asksForParser node := by
    rw [Rules.asksForParser, Rules.asksForParser, h.contents.parameters_eq]
  unfold Rules.agentFindings Rules.modelFindings Rules.fallbackFindings Rules.parserFindings
    Rules.promptFindings Rules.systemMessageFindings Rules.memoryFindings Rules.toolFindings
    Rules.iterationFindings
  rw [h.wired_eq, h.settings_eq, h.contents.parameters_eq, h.streamingFindings_eq, hfallback,
    hparser]

theorem chainFindings_eq : Rules.chainFindings ctx' node' = Rules.chainFindings ctx node := by
  have hmodels : ctx'.index.countInbound node'.name .languageModel
      = ctx.index.countInbound node.name .languageModel := congrFun h.wired_eq .languageModel
  unfold Rules.chainFindings Rules.chainModelFindings Rules.promptFindings
  rw [hmodels, h.contents.parameters_eq]

theorem chatTriggerFindings_eq (hcategory : node.category = .chatTrigger) :
    Rules.chatTriggerFindings ctx' node'
      = (Rules.chatTriggerFindings ctx node).map (.retarget rename respell) := by
  have hmode : Rules.responseMode node' = Rules.responseMode node := by
    rw [Rules.responseMode, Rules.responseMode, h.contents.parameters_eq]
  rw [Rules.chatTriggerFindings_eq, Rules.chatTriggerFindings_eq, hmode]
  by_cases houtputs : ctx.graph.mainTargets node.name = []
  · rw [if_pos houtputs, if_pos (h.outputs_iff.2 houtputs)]
    rfl
  · rw [if_neg houtputs, if_neg (mt h.outputs_iff.1 houtputs)]
    have hfirst := h.first_rel hcategory
    generalize Rules.firstNode? ctx node = first at hfirst ⊢
    generalize Rules.firstNode? ctx' node' = first' at hfirst ⊢
    cases hfirst with
    | none => rfl
    | some htarget => exact htarget.targetFindings_eq (Rules.responseMode node)

/-! ### The node as a whole -/

/-- Checks other than that of a chat trigger find the same, and nothing of it shows a node. -/
theorem findings_eq (category : Category) (hcategory : category ≠ .chatTrigger) :
    findings ctx' category node' = findings ctx category node := by
  cases category with
  | agent => rw [findings, findings, h.agentFindings_eq]
  | chatTrigger => exact absurd rfl hcategory
  | basicChain => rw [findings, findings, h.chainFindings_eq]
  | tool kind =>
    rw [findings, findings, h.settings_eq,
      toolKindFindings_congr h.contents kind ctx.settings]
  | other => rfl

end Matches

/-- The two findings that show a node are found by the check of a chat trigger only. -/
theorem map_retarget_findings {category : Category} (hcategory : category ≠ .chatTrigger)
    (ctx : Context) (node : Node) :
    (findings ctx category node).map (List.map (.retarget rename respell))
      = findings ctx category node := by
  cases hfound : findings ctx category node with
  | error fault => rfl
  | ok found =>
    -- either code would make the category that of a chat trigger
    have hself : ∀ f ∈ found, f.retarget rename respell = f := by
      intro f hf
      have hcode : f.code ∈ category.codes := codesIn_findings hfound f hf
      refine Finding.retarget_eq_self (fun hwrong => hcategory ?_) (fun houtput => hcategory ?_)
      · exact Category.eq_chatTrigger_of_mem_codes (.inl (hwrong ▸ hcode))
      · exact Category.eq_chatTrigger_of_mem_codes (.inr (houtput ▸ hcode))
    rw [Except.map, List.map_congr_left hself, List.map_id']

/-- What is found in a node is found in the one in its place, with the node that it shows renamed
and the type respelled. -/
theorem Matches.nodeFindings_eq {ctx ctx' : Context} {node node' : Node}
    (h : Matches rename respell ctx ctx' node node') :
    nodeFindings ctx' node'
      = (nodeFindings ctx node).map (List.map (.retarget rename respell)) := by
  rw [nodeFindings, nodeFindings, h.contents.disabled_eq, h.category_eq]
  split
  · rfl
  · by_cases hcategory : node.category = .chatTrigger
    · rw [hcategory, findings, findings, h.chatTriggerFindings_eq hcategory]
      rfl
    · rw [h.findings_eq _ hcategory, map_retarget_findings hcategory]

/-- **A node and the one in its place give the same**, with the nodes that are shown renamed and the
type respelled, or the same fault. -/
theorem Matches.node_eq {ctx ctx' : Context} {n n' : Node}
    (h : Matches rename respell ctx ctx' n n') :
    node ctx' n' = (node ctx n).map (List.map (.retarget rename respell)) := by
  rw [Check.node_eq, Check.node_eq, h.nodeFindings_eq, h.category_eq]
  cases nodeFindings ctx n with
  | error fault => rfl
  | ok found =>
    simp only [Except.map, Node.diagnose, List.map_map, h.contents.id_eq, h.name_eq]
    rfl

/-- A node looks the same in two surroundings: it gives the same. -/
theorem Matches.node_eq_of_id {ctx ctx' : Context} {n n' : Node} (h : Matches id id ctx ctx' n n') :
    node ctx' n' = node ctx n := by
  rw [h.node_eq, funext Diagnostic.retarget_id]
  cases node ctx n <;> simp [Except.map]

/-! ### All nodes -/

/-- **A run over nodes and one over those in their places end in the same way**, with the nodes that
are shown renamed and the type respelled. -/
theorem nodes_eq_of_matches {ctx ctx' : Context} {ns ns' : List Node}
    (h : List.Forall₂ (Matches rename respell ctx ctx') ns ns') :
    nodes ctx' ns' = (nodes ctx ns).map (List.map (.retarget rename respell)) := by
  induction h with
  | nil => rfl
  | @cons first first' rest _ hfirst _ ih =>
    rw [nodes, nodes, hfirst.node_eq, ih]
    cases node ctx first with
    | error fault => rfl
    | ok found =>
      -- the first node has its place, and so a fault behind it is the same one
      cases nodes ctx rest with
      | error fault => rfl
      | ok others => exact congrArg Except.ok (List.map_append ..).symm

/-! ## Surroundings -/

/-- Two surroundings look the same to every check: the same leads into a name, a name leads to the
same node and to the same main targets. -/
structure Alike (ctx ctx' : Context) : Prop where
  settings_eq : ctx.settings = ctx'.settings
  inbound_eq : ∀ name port, ctx.index.inbound name port = ctx'.index.inbound name port
  named_eq : ∀ name, ctx.graph.node? name = ctx'.graph.node? name
  mainTargets_eq : ∀ name, ctx.graph.mainTargets name = ctx'.graph.mainTargets name

/-- A node looks the same in two surroundings: as much leads into it, an answer is streamed to it in
both or in none, a name leads to the same node, and a node to the same main targets. -/
theorem Matches.of_same {ctx ctx' : Context} {n : Node} (hsettings : ctx'.settings = ctx.settings)
    (hwired : Rules.wired ctx' n = Rules.wired ctx n)
    (hstreamed : Rules.isStreamingTarget ctx' n = Rules.isStreamingTarget ctx n)
    (hnamed : ∀ name, ctx'.graph.node? name = ctx.graph.node? name)
    (htargets : ∀ name, ctx'.graph.mainTargets name = ctx.graph.mainTargets name) :
    Matches id id ctx ctx' n n where
  settings_eq := hsettings
  name_eq := rfl
  category_eq := rfl
  contents := .refl n
  wired_eq := hwired
  streamed_eq := hstreamed
  outputs_iff := by rw [htargets]
  first_rel := by
    intro _
    have hfirst : Rules.firstNode? ctx' n = Rules.firstNode? ctx n := by
      rw [Rules.firstNode?, Rules.firstNode?, htargets, funext hnamed]
    rw [hfirst]
    cases Rules.firstNode? ctx n with
    | none => exact .none
    | some target => exact .some ⟨rfl, rfl, rfl, by rw [htargets]⟩

theorem Alike.matches_self {ctx ctx' : Context} (h : Alike ctx ctx') (n : Node) :
    Matches id id ctx ctx' n n := by
  refine .of_same h.settings_eq.symm ?_ ?_ (fun name => (h.named_eq name).symm)
    fun name => (h.mainTargets_eq name).symm
  · funext port
    rw [Rules.wired, Rules.wired, ReverseIndex.countInbound, ReverseIndex.countInbound,
      h.inbound_eq]
  · rw [Rules.isStreamingTarget, Rules.isStreamingTarget, h.inbound_eq, funext h.named_eq]

/-- **A run ends in the same way in surroundings that look the same**, with the same diagnostics or
the same fault. -/
theorem Alike.nodes_eq {ctx ctx' : Context} (h : Alike ctx ctx') (ns : List Node) :
    nodes ctx ns = nodes ctx' ns := by
  rw [nodes_eq_walk, nodes_eq_walk, funext fun n => (h.matches_self n).node_eq_of_id]

end Check

/-! ## Graphs -/

/-- A node in the place of another, as the checks of other nodes see it. -/
structure Node.Replaces (rename respell : String → String) (node node' : Node) : Prop where
  name_eq : node'.name = rename node.name
  type_eq : node'.type = respell node.type
  category_eq : node'.category = node.category
  source_eq : Rules.isStreamingSource node' = Rules.isStreamingSource node

theorem replaces_self (node : Node) : node.Replaces id id node :=
  ⟨rfl, rfl, rfl, rfl⟩

/-- A graph and one that is the same to the checks when names are renamed and types respelled: a
name leads to nodes that replace each other, and the same leads into it and out of it, in some
order. -/
structure Graph.Mirrors (rename respell : String → String) (g g' : Graph) : Prop where
  named_rel : ∀ name,
    Option.Rel (Node.Replaces rename respell) (g.node? name) (g'.node? (rename name))
  sources_perm : ∀ name port,
    (((ReverseIndex.build g').inbound (rename name) port).map (·.source)).Perm
      (((ReverseIndex.build g).inbound name port).map fun edge => rename edge.source)
  targets_perm : ∀ name,
    ((g'.mainTargets (rename name)).map (·.node)).Perm
      ((g.mainTargets name).map fun target => rename target.node)

namespace Graph

variable {rename respell : String → String} {g g' : Graph}

/-- The connection table decides what leads into a name and out of it. -/
theorem build_eq_of_connections (h : g'.connections = g.connections) :
    ReverseIndex.build g' = ReverseIndex.build g := by
  obtain ⟨_, _, connections, _⟩ := g
  obtain ⟨_, _, connections', _⟩ := g'
  obtain rfl : connections' = connections := h
  rfl

theorem mainTargets_eq_of_connections (h : g'.connections = g.connections)
    (name : String) : g'.mainTargets name = g.mainTargets name := by
  unfold mainTargets outbound slots outputs
  rw [h]

/-- Nodes that replace each other in their order are found under names that do. -/
theorem node?_rel {R : Node → Node → Prop} (hinjective : rename.Injective)
    (hname : ∀ node node', R node node' → node'.name = rename node.name)
    (h : List.Forall₂ R g.nodes g'.nodes) (name : String) :
    Option.Rel R (g.node? name) (g'.node? (rename name)) := by
  unfold Graph.node?
  generalize g.nodes = nodes at h ⊢
  generalize g'.nodes = nodes' at h ⊢
  induction h with
  | nil => exact .none
  | @cons first first' _ _ hfirst _ ih =>
    rw [List.find?_cons, List.find?_cons, hname first first' hfirst]
    by_cases hsame : first.name = name
    · simp only [hsame, beq_self_eq_true]
      exact .some hfirst
    · have hother : rename first.name ≠ rename name := hinjective.ne hsame
      simpa only [beq_eq_false_iff_ne.2 hsame, beq_eq_false_iff_ne.2 hother] using ih

namespace Mirrors

variable (h : g.Mirrors rename respell g')

include h

theorem outputs_iff (name : String) :
    g'.mainTargets (rename name) = [] ↔ g.mainTargets name = [] := by
  have hlength := (h.targets_perm name).length_eq
  rw [List.length_map, List.length_map] at hlength
  rw [← List.length_eq_zero_iff, hlength, List.length_eq_zero_iff]

theorem countInbound_eq (name : String) (port : Port) :
    (ReverseIndex.build g').countInbound (rename name) port
      = (ReverseIndex.build g).countInbound name port := by
  have hlength := (h.sources_perm name port.name).length_eq
  rwa [List.length_map, List.length_map] at hlength

/-- Whether a streaming trigger is among the sources does not depend on their order. -/
theorem isStreamingTarget_eq (settings : Settings) {node node' : Node}
    (hname : node'.name = rename node.name) :
    Rules.isStreamingTarget (.of g' settings) node'
      = Rules.isStreamingTarget (.of g settings) node := by
  have hsource : ∀ name, (g'.node? (rename name)).any Rules.isStreamingSource
      = (g.node? name).any Rules.isStreamingSource := by
    intro name
    have hnamed := h.named_rel name
    generalize g.node? name = found at hnamed ⊢
    generalize g'.node? (rename name) = found' at hnamed ⊢
    cases hnamed with
    | none => rfl
    | some hreplaces => exact hreplaces.source_eq
  calc Rules.isStreamingTarget (.of g' settings) node'
      = (((ReverseIndex.build g').inbound (rename node.name) Port.main.name).map (·.source)).any
          fun source => (g'.node? source).any Rules.isStreamingSource := by
        rw [List.any_map, ← hname]
        rfl
    _ = (((ReverseIndex.build g).inbound node.name Port.main.name).map fun edge =>
          rename edge.source).any fun source => (g'.node? source).any Rules.isStreamingSource :=
        (h.sources_perm node.name Port.main.name).any_eq
    _ = Rules.isStreamingTarget (.of g settings) node := by
        rw [List.any_map, Function.comp_def]
        simp only [hsource]
        rfl

/-- **A node that replaces another matches it**, if it has the same contents and, being a chat
trigger, the same first target. -/
theorem matches_of_replaces (settings : Settings) {node node' : Node}
    (hreplaces : node.Replaces rename respell node') (hcontents : node.SameContents node')
    (hfirst : node.category = .chatTrigger →
      (g'.mainTargets (rename node.name)).head?.map (·.node)
        = (g.mainTargets node.name).head?.map fun target => rename target.node) :
    Check.Matches rename respell (.of g settings) (.of g' settings) node node' where
  settings_eq := rfl
  name_eq := hreplaces.name_eq
  category_eq := hreplaces.category_eq
  contents := hcontents
  wired_eq := by
    funext port
    rw [Rules.wired, Rules.wired, hreplaces.name_eq]
    exact h.countInbound_eq node.name port
  streamed_eq := h.isStreamingTarget_eq settings hreplaces.name_eq
  outputs_iff := by
    rw [hreplaces.name_eq]
    exact h.outputs_iff node.name
  first_rel := by
    intro hcategory
    have hfirst := hfirst hcategory
    have hnode : ∀ g : Graph, ∀ node : Node, Rules.firstNode? (.of g settings) node
        = ((g.mainTargets node.name).head?.map (·.node)).bind g.node? := fun g node => by
      rw [Option.bind_map]
      rfl
    rw [hnode, hnode, hreplaces.name_eq, hfirst]
    cases (g.mainTargets node.name).head? with
    | none => exact .none
    | some first =>
      -- the name leads to the nodes that replace each other there
      have hnamed := h.named_rel first.node
      simp only [Option.map_some, Option.bind_some]
      generalize g.node? first.node = target at hnamed ⊢
      generalize g'.node? (rename first.node) = target' at hnamed ⊢
      cases hnamed with
      | none => exact .none
      | some htarget =>
        refine .some ⟨htarget.name_eq, htarget.type_eq, htarget.category_eq, ?_⟩
        rw [htarget.name_eq]
        exact h.outputs_iff _

end Mirrors

end Graph

end FlowLint
