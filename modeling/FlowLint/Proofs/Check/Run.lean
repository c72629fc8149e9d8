import FlowLint.Check
import FlowLint.Proofs.Outcome

/-!
# What a run of the checks gives

A run is a walk over the nodes. Here the diagnostics of a node are traced back to its findings, and
the diagnostics of a run to those of its nodes, so that a statement about a run can be settled node
by node:

* **`Check.node_eq`**: a node's diagnostics are its findings (`Check.nodeFindings`), each with the
  label of the node's category, the node's name and its id.
* **`Check.nodes_eq_walk`**: a run joins what the nodes give.
* **`Check.mem_of_nodes_eq_ok`**, **`Check.forall_code_iff`**: the diagnostics of a run that
  returns, and what holds of all their codes.
-/

namespace FlowLint

@[simp] theorem Context.of_graph (g : Graph) (settings : Settings) :
    (Context.of g settings).graph = g := rfl

@[simp] theorem Context.of_settings (g : Graph) (settings : Settings) :
    (Context.of g settings).settings = settings := rfl

namespace Check

/-! ## One node -/

/-- What the nodes of a category are called in messages. -/
def label : Category → String
  | .agent => "AI Agent"
  | .chatTrigger => "Chat Trigger"
  | .basicChain => "Basic LLM Chain"
  | .tool kind => kind.label
  | .other => ""

/-- What the checks of a category find in a node, when all of it can be worded. -/
def findings (ctx : Context) (category : Category) (node : Node) :
    Except CheckFault (List Finding) :=
  match category with
  | .agent => Rules.worded (Rules.agentFindings ctx node)
  | .chatTrigger => .ok (Rules.chatTriggerFindings ctx node)
  | .basicChain => .ok (Rules.chainFindings ctx node)
  | .tool kind => do Rules.worded (← Rules.toolKindFindings kind node ctx.settings)
  | .other => .ok []

/-- What the checks find in a node; nothing in a disabled one. -/
def nodeFindings (ctx : Context) (node : Node) : Except CheckFault (List Finding) :=
  if node.disabled then .ok [] else findings ctx node.category node

/-- What is found in a node is nothing, or it is what the checks of its category find. -/
theorem nodeFindings_cases {ctx : Context} {node : Node} {found : List Finding}
    (h : nodeFindings ctx node = .ok found) :
    found = [] ∨ node.disabled = false ∧ findings ctx node.category node = .ok found := by
  rw [nodeFindings] at h
  split at h
  · cases h
    exact .inl rfl
  · next henabled => exact .inr ⟨Bool.eq_false_iff.2 henabled, h⟩

/-- An agent that is checked has all that is found in it. -/
theorem eq_agentFindings {ctx : Context} {node : Node} {found : List Finding}
    (h : findings ctx .agent node = .ok found) : found = Rules.agentFindings ctx node :=
  (Rules.worded_eq_ok_iff.1 h).2

/-- A tool that is checked has all that is found in one of its kind. -/
theorem toolKindFindings_of_findings {ctx : Context} {kind : ToolKind} {node : Node}
    {found : List Finding} (h : findings ctx (.tool kind) node = .ok found) :
    Rules.toolKindFindings kind node ctx.settings = .ok found := by
  obtain ⟨all, hall, hworded⟩ := Outcome.bind_eq_ok_iff.1 h
  obtain ⟨-, rfl⟩ := Rules.worded_eq_ok_iff.1 hworded
  exact hall

theorem asCategory_eq (ctx : Context) (category : Category) (node : Node) :
    asCategory ctx category node
      = (findings ctx category node).map (node.diagnose (label category)) := by
  cases category with
  | tool kind =>
    -- the only category whose checks can end before anything is worded
    show tool ctx kind node = _
    rw [tool, findings, label]
    cases Rules.toolKindFindings kind node ctx.settings <;> rfl
  | _ => rfl

/-- **A node's diagnostics are its findings.** -/
theorem node_eq (ctx : Context) (n : Node) :
    node ctx n = (nodeFindings ctx n).map (n.diagnose (label n.category)) := by
  unfold node nodeFindings
  by_cases hdisabled : n.disabled = true
  · rw [if_pos hdisabled, if_pos hdisabled]
    rfl
  · rw [if_neg hdisabled, if_neg hdisabled, asCategory_eq]

/-- A node's diagnostics carry its id and its name, and the codes of its findings. -/
theorem mem_diagnose_iff {n : Node} {label : String} {found : List Finding} {d : Diagnostic} :
    d ∈ n.diagnose label found ↔ ∃ f ∈ found, d = ⟨f, label, n.id, n.name⟩ := by
  rw [Node.diagnose, List.mem_map]
  exact exists_congr fun f => and_congr_right fun _ => eq_comm

/-! ## All nodes -/

/-- **A run joins what the nodes give.** -/
theorem nodes_eq_walk (ctx : Context) (ns : List Node) :
    nodes ctx ns = (Outcome.walk (node ctx) ns).map List.flatten := by
  induction ns with
  | nil => rfl
  | cons first rest ih =>
    rw [nodes, ih, Outcome.walk]
    cases node ctx first with
    | error fault => rfl
    | ok found => cases Outcome.walk (node ctx) rest <;> rfl

/-- A run over nodes that all return gives their blocks one after the other. -/
theorem nodes_eq_ok_of_blocks {ctx : Context} {ns : List Node} {block : Node → List Diagnostic}
    (h : ∀ n ∈ ns, node ctx n = .ok (block n)) : nodes ctx ns = .ok (ns.flatMap block) := by
  induction ns with
  | nil => rfl
  | cons first rest ih =>
    obtain ⟨hfirst, hrest⟩ := List.forall_mem_cons.1 h
    rw [nodes, hfirst, ih hrest]
    rfl

/-- A run fails with the fault of the first node that has one. -/
theorem graph_eq_error_iff {g : Graph} {settings : Settings} {fault : CheckFault} :
    graph g settings = .error fault
      ↔ ∃ before n after, g.nodes = before ++ n :: after
        ∧ (∀ other ∈ before, ∃ found, node (.of g settings) other = .ok found)
        ∧ node (.of g settings) n = .error fault := by
  rw [← Outcome.walk_eq_error_iff, graph, nodes_eq_walk]
  cases Outcome.walk (node (.of g settings)) g.nodes <;> simp [Except.map]

/-- A run that returns gives every node's diagnostics and no others. -/
theorem mem_of_nodes_eq_ok {ctx : Context} {ns : List Node} {ds : List Diagnostic}
    (h : nodes ctx ns = .ok ds) :
    (∀ n ∈ ns, ∃ found, nodeFindings ctx n = .ok found)
    ∧ ∀ d, d ∈ ds ↔ ∃ n ∈ ns, ∃ found, nodeFindings ctx n = .ok found
        ∧ d ∈ n.diagnose (label n.category) found := by
  rw [nodes_eq_walk, Outcome.map_eq_ok_iff] at h
  obtain ⟨blocks, hwalk, rfl⟩ := h
  -- each node has its block of diagnostics, and each block its node
  have hblocks := Outcome.walk_eq_ok_iff.1 hwalk
  constructor
  · intro n hn
    obtain ⟨block, -, hblock⟩ := Outcome.exists_of_mem_left hblocks hn
    rw [node_eq, Outcome.map_eq_ok_iff] at hblock
    obtain ⟨found, hfound, -⟩ := hblock
    exact ⟨found, hfound⟩
  · intro d
    rw [List.mem_flatten]
    constructor
    · rintro ⟨block, hmem, hd⟩
      obtain ⟨n, hn, hblock⟩ := Outcome.exists_of_mem_right hblocks hmem
      rw [node_eq, Outcome.map_eq_ok_iff] at hblock
      obtain ⟨found, hfound, rfl⟩ := hblock
      exact ⟨n, hn, found, hfound, hd⟩
    · rintro ⟨n, hn, found, hfound, hd⟩
      obtain ⟨block, hmem, hblock⟩ := Outcome.exists_of_mem_left hblocks hn
      rw [node_eq, hfound] at hblock
      cases hblock
      exact ⟨_, hmem, hd⟩

/-- What holds of the codes of a run that returns holds of the codes of each node's findings. -/
theorem forall_code_iff {ctx : Context} {ns : List Node} {ds : List Diagnostic}
    (h : nodes ctx ns = .ok ds) (P : Code → Prop) :
    (∀ d ∈ ds, P d.code)
      ↔ ∀ n ∈ ns, ∀ found, nodeFindings ctx n = .ok found → ∀ f ∈ found, P f.code := by
  obtain ⟨-, hmem⟩ := mem_of_nodes_eq_ok h
  constructor
  · intro hall n hn found hfound f hf
    exact hall ⟨f, label n.category, n.id, n.name⟩
      ((hmem _).2 ⟨n, hn, found, hfound, mem_diagnose_iff.2 ⟨f, hf, rfl⟩⟩)
  · intro hall d hd
    obtain ⟨n, hn, found, hfound, hdiagnose⟩ := (hmem d).1 hd
    obtain ⟨f, hf, rfl⟩ := mem_diagnose_iff.1 hdiagnose
    exact hall n hn found hfound f hf

end Check

end FlowLint
