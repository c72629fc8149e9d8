import FlowLint.Proofs.Check.Correspondence

/-!
# What nodes let others know of them

A node is checked by what it holds and by the wires around it, but two checks also look at other
nodes: an agent looks for the chat triggers that stream to it, and a chat trigger looks at the type
of its first target. Nothing else of a node is known beyond it. Two graphs that agree in this much
may differ in all other things, and a node that stands in both gives the same in both.

* **`Node.SeenAlike`**: what has to agree. Names may repeat, so that a name does not tell which of
  the nodes is looked at.
* **`Graph.SeenAlike.mirrors`**: graphs whose nodes are seen alike lead every name to the same.
* **`Check.noninterference`**: the node gives the same, and so do the others when a node that is no
  chat trigger is edited or disabled.
-/

namespace FlowLint

/-- Nodes that the checks of other nodes cannot tell apart. What a node holds matters to them in
chat triggers only, and there the disabled flag and the response mode. -/
structure Node.SeenAlike (node node' : Node) : Prop where
  name_eq : node'.name = node.name
  type_eq : node'.type = node.type
  disabled_eq : node.category = .chatTrigger → node'.disabled = node.disabled
  mode_eq : node.category = .chatTrigger → Rules.responseMode node' = Rules.responseMode node

/-- Graphs with one connection table, and nodes that are seen alike position by position. -/
structure Graph.SeenAlike (g g' : Graph) : Prop where
  connections_eq : g'.connections = g.connections
  nodes_alike : List.Forall₂ Node.SeenAlike g.nodes g'.nodes

/-- The graph with another node at a position. -/
def Graph.edited (g : Graph) (position : Nat) (node : Node) : Graph :=
  { g with nodes := g.nodes.set position node }

/-! ## Nodes -/

namespace Node

theorem SeenAlike.refl (node : Node) : node.SeenAlike node :=
  ⟨rfl, rfl, fun _ => rfl, fun _ => rfl⟩

/-- A node that is no chat trigger is known by its name and its type. -/
theorem SeenAlike.of_not_chatTrigger {node node' : Node} (hcategory : node.category ≠ .chatTrigger)
    (hname : node'.name = node.name) (htype : node'.type = node.type) : node.SeenAlike node' :=
  ⟨hname, htype, fun h => absurd h hcategory, fun h => absurd h hcategory⟩

end Node

theorem replaces_of_seenAlike {node node' : Node} (h : node.SeenAlike node') :
    node.Replaces id id node' := by
  have hcategory : node'.category = node.category := by rw [Node.category, Node.category, h.type_eq]
  refine ⟨h.name_eq, h.type_eq, hcategory, ?_⟩
  rw [Rules.isStreamingSource, Rules.isStreamingSource, Node.isChatTrigger, Node.isChatTrigger,
    hcategory]
  -- the flag and the mode count in chat triggers, where they agree
  by_cases htrigger : node.category = .chatTrigger
  · rw [h.disabled_eq htrigger, h.mode_eq htrigger]
  · have hnot : (node.category == .chatTrigger) = false := beq_eq_false_iff_ne.2 htrigger
    rw [hnot, Bool.and_false, Bool.and_false, Bool.false_and, Bool.false_and]

/-! ## Graphs -/

namespace Graph

theorem SeenAlike.mirrors {g g' : Graph} (h : g.SeenAlike g') : g.Mirrors id id g' where
  named_rel := node?_rel Function.injective_id (fun _ _ hnodes => hnodes.name_eq)
    (h.nodes_alike.imp fun _ _ => replaces_of_seenAlike)
  sources_perm name port := by
    rw [build_eq_of_connections h.connections_eq]
    exact .refl _
  targets_perm name := by
    rw [mainTargets_eq_of_connections h.connections_eq]
    exact .refl _

theorem seenAlike_edited {g : Graph} {position : Nat} {old new : Node}
    (hold : g.nodes[position]? = some old) (halike : old.SeenAlike new) :
    g.SeenAlike (g.edited position new) where
  connections_eq := rfl
  nodes_alike := by
    show List.Forall₂ Node.SeenAlike g.nodes (g.nodes.set position new)
    generalize g.nodes = nodes at hold
    induction nodes generalizing position with
    | nil => exact .nil
    | cons first rest ih =>
      cases position with
      | zero =>
        cases hold
        exact .cons halike (List.forall₂_same.2 fun node _ => .refl node)
      | succ position => exact .cons (.refl first) (ih hold)

end Graph

namespace Check

/-- A node gives the same in graphs that are seen alike, whatever else they hold. -/
theorem node_eq_of_seenAlike {g g' : Graph} (h : g.SeenAlike g') (settings : Settings) (n : Node) :
    node (.of g' settings) n = node (.of g settings) n := by
  have hfirst : (g'.mainTargets n.name).head?.map (·.node)
      = (g.mainTargets n.name).head?.map (·.node) := by
    rw [Graph.mainTargets_eq_of_connections h.connections_eq]
  exact (h.mirrors.matches_of_replaces settings (replaces_self n) (.refl n)
    fun _ => hfirst).node_eq_of_id

/-- **Nodes do not interfere with each other.** Where two graphs are seen alike, a node that stands
at one position in both gives the same diagnostics, or the same fault. So no other node gives
anything else when a node that is no chat trigger is edited or disabled. -/
theorem noninterference (g : Graph) (settings : Settings) :
    (∀ g' : Graph, g.SeenAlike g' → ∀ (position : Nat) (n : Node),
      g.nodes[position]? = some n → g'.nodes[position]? = some n →
        node (.of g' settings) n = node (.of g settings) n)
    ∧ ∀ (position : Nat) (old new : Node), g.nodes[position]? = some old →
      old.category ≠ .chatTrigger → new.name = old.name → new.type = old.type →
        ∀ (other : Nat) (n : Node), other ≠ position → g.nodes[other]? = some n →
          (g.edited position new).nodes[other]? = some n
          ∧ node (.of (g.edited position new) settings) n = node (.of g settings) n := by
  refine ⟨fun g' hg _ n _ _ => node_eq_of_seenAlike hg settings n, ?_⟩
  intro position old new hold hcategory hname htype other n hother hn
  have halike : old.SeenAlike new := .of_not_chatTrigger hcategory hname htype
  constructor
  · rw [Graph.edited, List.getElem?_set_ne hother.symm]
    exact hn
  · exact node_eq_of_seenAlike (Graph.seenAlike_edited hold halike) settings n

/-- A chat that streams to an agent with main outputs. Another node has the name of the agent. -/
def doubledAgent : Graph where
  name := none
  nodes := [chat "streaming", agent, sheet]
  connections :=
    [(.text "chat", .map [(.text "main", .list [.list [entry]])]),
      (.text "agent", .map [(.text "main", .list [.list [entry]])])]
  extra := []
where
  chat (mode : String) : Node :=
    ⟨none, "chat", NodeType.chatTriggerType, .int 1, [(.text "responseMode", .text mode)], [],
      false, []⟩
  agent : Node := ⟨none, "agent", NodeType.agentType, .int 1, [], [], false, []⟩
  sheet : Node := ⟨none, "agent", "n8n-nodes-base.sheet", .int 1, [], [], false, []⟩
  entry : Value := .map [(.text "node", .text "agent")]

/-- The same to the agent: its namesake is disabled, and the chat has an id, a version and a title.
-/
def doubledAgent.reworked : Graph :=
  { doubledAgent with
    nodes :=
      [⟨some "c", "chat", NodeType.chatTriggerType, .int 2,
          [(.text "title", .text "Hi"), (.text "responseMode", .text "streaming")], [], false, []⟩,
        agent, { sheet with disabled := true }] }

/-- Neither the rework nor disabling the agent is seen at other nodes, while another response mode
of the chat is. -/
theorem noninterference_doubledAgent :
    doubledAgent.SeenAlike doubledAgent.reworked
    ∧ node (.of doubledAgent {}) doubledAgent.agent
      = .ok [⟨.error .agentWithoutModel, "AI Agent", none, "agent"⟩,
          ⟨.info .missingSystemMessage, "AI Agent", none, "agent"⟩,
          ⟨.error .streamingWithMainOutput, "AI Agent", none, "agent"⟩,
          ⟨.info .noToolsConnected, "AI Agent", none, "agent"⟩]
    ∧ node (.of doubledAgent.reworked {}) doubledAgent.agent
      = node (.of doubledAgent {}) doubledAgent.agent
    ∧ node (.of (doubledAgent.edited 1 { doubledAgent.agent with disabled := true }) {})
        (doubledAgent.chat "streaming")
      = node (.of doubledAgent {}) (doubledAgent.chat "streaming")
    ∧ node (.of (doubledAgent.edited 0 (doubledAgent.chat "lastNode")) {}) doubledAgent.agent
      = .ok [⟨.error .agentWithoutModel, "AI Agent", none, "agent"⟩,
          ⟨.info .missingSystemMessage, "AI Agent", none, "agent"⟩,
          ⟨.info .noToolsConnected, "AI Agent", none, "agent"⟩] := by
  obtain ⟨halike, hedited⟩ := noninterference doubledAgent {}
  have hreworked : doubledAgent.SeenAlike doubledAgent.reworked :=
    ⟨rfl, .cons ⟨rfl, rfl, fun _ => rfl, fun _ => rfl⟩ (.cons (.refl _)
      (.cons (.of_not_chatTrigger (by decide) rfl rfl) .nil))⟩
  have hagent := halike doubledAgent.reworked hreworked 1 doubledAgent.agent rfl rfl
  have hchat := hedited 1 doubledAgent.agent { doubledAgent.agent with disabled := true } rfl
    (by decide) rfl rfl 0 (doubledAgent.chat "streaming") (by decide) rfl
  exact ⟨hreworked, rfl, hagent, hchat.2, rfl⟩

end Check

end FlowLint
