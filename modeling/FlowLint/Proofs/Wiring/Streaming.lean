import FlowLint.Proofs.Wiring.Verdict

/-!
# Streaming conflicts from both sides

A streamed answer ends at the agent, so an agent behind a streaming chat trigger is to have no main
outputs. The conflict is told twice. The check of the trigger follows the first of its main targets
in the connection table, and the check of the agent goes back over the reverse index and looks the
sources up by name.

* **`finds_withMainOutput_iff`**, **`finds_agentHasOutput_iff`**: when each side finds it.
* **`gets_withMainOutput_iff`**, **`gets_agentHasOutput_iff`**: when a run tells of it.
* **`streaming_consistent`**: in the diagnostics of a run the two sides agree.
-/

namespace FlowLint

/-- The node is a chat trigger at work in streaming mode. -/
structure Node.Streams (trigger : Node) : Prop where
  enabled : trigger.disabled = false
  category_eq : trigger.category = .chatTrigger
  asks : trigger.AsksForStream

namespace Graph

/-- The node is an agent with main outputs, and the first main target of a trigger names it. -/
structure FirstAgent (g : Graph) (trigger agent : Node) : Prop where
  mem : agent ∈ g.nodes
  named : ∃ first ∈ (g.mainTargets trigger.name).head?, agent.name = first.node
  category_eq : agent.category = .agent
  outputs : g.mainTargets agent.name ≠ []

end Graph

namespace Rules

variable {g : Graph} {settings : Settings} {node : Node}

/-! ## One node -/

/-- The triggers behind an agent are those with the agent among their main targets. -/
theorem streamsTo_iff (htable : g.TableDistinct) (name : String) :
    g.StreamsTo name
      ↔ ∃ trigger ∈ g.nodes, trigger.Streams
        ∧ ∃ target ∈ g.mainTargets trigger.name, target.node = name := by
  have hsame : ∀ source, (∃ target ∈ g.mainTargets source, target.node = name)
      ↔ ∃ wire ∈ g.mainWires source, wire.target = name := fun source => by
    rw [← List.mem_map, ← List.mem_map, map_node_mainTargets htable]
  constructor
  · rintro ⟨trigger, hin, henabled, hcategory, hasks, hwire⟩
    exact ⟨trigger, hin, ⟨henabled, hcategory, hasks⟩, (hsame _).2 hwire⟩
  · rintro ⟨trigger, hin, hstreams, htarget⟩
    exact ⟨trigger, hin, hstreams.enabled, hstreams.category_eq, hstreams.asks,
      (hsame _).1 htarget⟩

/-- **The agent's side.** Only one of the nine checks of an agent gives the code. -/
theorem finds_withMainOutput_iff (htable : g.TableDistinct) (hnames : g.NamesDistinct) :
    Finds (agentFindings (.of g settings) node) .streamingWithMainOutput
      ↔ g.StreamsTo node.name ∧ g.mainTargets node.name ≠ [] := by
  have hother : ∀ {codes : List Code} {found : List Finding}, CodesIn codes found →
      .streamingWithMainOutput ∉ codes → (Finds found .streamingWithMainOutput ↔ False) :=
    fun hcodes hnot => iff_false_intro fun hfinds => hnot (hcodes.mem_of_finds hfinds)
  have hstreaming : Finds (streamingFindings (.of g settings) node) .streamingWithMainOutput
      ↔ g.StreamsTo node.name ∧ g.mainTargets node.name ≠ [] := by
    rw [← @isStreamingTarget_iff g settings node htable hnames, streamingFindings,
      Context.of_graph]
    by_cases htarget : isStreamingTarget (.of g settings) node = true <;>
      by_cases hempty : g.mainTargets node.name = [] <;>
        simp [Finds, htarget, hempty]
  rw [agentFindings]
  simp only [Finds.append_iff, hstreaming,
    hother (inOrder_modelFindings _ node).codesIn (by decide),
    hother (inOrder_fallbackFindings _ node).codesIn (by decide),
    hother (inOrder_parserFindings _ node).codesIn (by decide),
    hother (inOrder_promptFindings node).codesIn (by decide),
    hother (inOrder_systemMessageFindings _ node).codesIn (by decide),
    hother (inOrder_memoryFindings _ node).codesIn (by decide),
    hother (inOrder_toolFindings _ node).codesIn (by decide),
    hother (inOrder_iterationFindings node _).codesIn (by decide), or_false, false_or]

/-- **The trigger's side.** The first main target names an agent with main outputs. -/
theorem finds_agentHasOutput_iff (hnames : g.NamesDistinct) :
    Finds (chatTriggerFindings (.of g settings) node) .streamingAgentHasOutput
      ↔ node.AsksForStream ∧ ∃ agent, g.FirstAgent node agent := by
  unfold chatTriggerFindings
  rw [Context.of_graph]
  cases htargets : g.mainTargets node.name with
  | nil =>
    refine iff_of_false (by simp [Finds]) ?_
    rintro ⟨-, agent, hagent⟩
    obtain ⟨first, hfirst, -⟩ := hagent.named
    rw [htargets] at hfirst
    exact nomatch hfirst
  | cons first rest =>
    dsimp only
    have hagent : ∀ agent, g.FirstAgent node agent
        ↔ g.node? first.node = some agent ∧ agent.category = .agent
          ∧ g.mainTargets agent.name ≠ [] := fun agent => by
      rw [Graph.node?_eq_some_iff hnames]
      constructor
      · rintro ⟨hmem, ⟨head, hhead, hname⟩, hcategory, houtputs⟩
        rw [htargets, List.head?_cons, Option.mem_some_iff] at hhead
        exact ⟨⟨hmem, hhead ▸ hname⟩, hcategory, houtputs⟩
      · rintro ⟨⟨hmem, hname⟩, hcategory, houtputs⟩
        exact ⟨hmem, ⟨first, by rw [htargets]; rfl, hname⟩, hcategory, houtputs⟩
    simp only [hagent]
    cases htarget : g.node? first.node with
    | none => simp [Finds]
    | some target =>
      dsimp only
      rw [← responseMode_eq_streaming_iff, targetFindings, Context.of_graph]
      by_cases hmode : responseMode node = streamingMode
      · by_cases hcategory : target.category = .agent <;>
          by_cases hempty : g.mainTargets target.name = [] <;>
            simp [Finds, Node.isAgent, hmode, hcategory, hempty]
      · rw [if_neg hmode]
        refine iff_of_false ?_ fun h => hmode h.1
        split <;> simp [Finds]

end Rules

/-! ## A run -/

namespace Check

variable {g : Graph} {settings : Settings} {ds : List Diagnostic}

theorem gets_withMainOutput_iff (htable : g.TableDistinct) (hnames : g.NamesDistinct)
    (h : graph g settings = .ok ds) {agent : Node} (hagent : agent ∈ g.nodes) :
    agent.Gets ds .streamingWithMainOutput
      ↔ agent.disabled = false ∧ agent.category = .agent ∧ g.StreamsTo agent.name
        ∧ g.mainTargets agent.name ≠ [] := by
  rw [gets_iff hnames h hagent]
  refine and_congr_right fun henabled => ?_
  constructor
  · rintro ⟨found, hfound, hfinds⟩
    have hcategory : agent.category = .agent :=
      Category.eq_agent_of_mem_codes ((codesIn_findings hfound).mem_of_finds hfinds)
    rw [hcategory] at hfound
    obtain rfl := eq_agentFindings hfound
    exact ⟨hcategory, (Rules.finds_withMainOutput_iff htable hnames).1 hfinds⟩
  · rintro ⟨hcategory, hconflict⟩
    obtain ⟨found, hfound⟩ := (mem_of_nodes_eq_ok h).1 agent hagent
    rw [nodeFindings, if_neg (by simp [henabled]), hcategory] at hfound
    obtain rfl := eq_agentFindings hfound
    rw [hcategory]
    exact ⟨_, hfound, (Rules.finds_withMainOutput_iff htable hnames).2 hconflict⟩

theorem gets_agentHasOutput_iff (hnames : g.NamesDistinct) (h : graph g settings = .ok ds)
    {trigger : Node} (htrigger : trigger ∈ g.nodes) :
    trigger.Gets ds .streamingAgentHasOutput
      ↔ trigger.Streams ∧ ∃ agent, g.FirstAgent trigger agent := by
  rw [gets_iff hnames h htrigger]
  constructor
  · rintro ⟨henabled, found, hfound, hfinds⟩
    have hcategory : trigger.category = .chatTrigger :=
      Category.eq_chatTrigger_of_mem_codes (.inr ((codesIn_findings hfound).mem_of_finds hfinds))
    rw [hcategory] at hfound
    cases hfound
    obtain ⟨hasks, hfirst⟩ := (Rules.finds_agentHasOutput_iff hnames).1 hfinds
    exact ⟨⟨henabled, hcategory, hasks⟩, hfirst⟩
  · rintro ⟨hstreams, hfirst⟩
    refine ⟨hstreams.enabled, _, by rw [hstreams.category_eq]; rfl, ?_⟩
    exact (Rules.finds_agentHasOutput_iff hnames).2 ⟨hstreams.asks, hfirst⟩

/-- **The two sides of a streaming conflict agree.** When a run tells of it at a trigger, the
trigger is at work, its first main target names an agent, and the run tells of it there too if the
agent is at work. When it tells of it at an agent, a trigger at work streams to the agent, and every
such trigger with the agent as its first main target is told of. -/
theorem streaming_consistent {g : Graph} {settings : Settings} {ds : List Diagnostic}
    (htable : g.TableDistinct) (hnames : g.NamesDistinct) (h : graph g settings = .ok ds) :
    (∀ trigger ∈ g.nodes, trigger.Gets ds .streamingAgentHasOutput →
      trigger.Streams ∧ ∃ first ∈ (g.mainTargets trigger.name).head?, ∃ agent ∈ g.nodes,
        agent.name = first.node ∧ agent.category = .agent
        ∧ (agent.disabled = false → agent.Gets ds .streamingWithMainOutput))
    ∧ ∀ agent ∈ g.nodes, agent.Gets ds .streamingWithMainOutput →
      (∃ trigger ∈ g.nodes, trigger.Streams
        ∧ ∃ target ∈ g.mainTargets trigger.name, target.node = agent.name)
      ∧ ∀ trigger ∈ g.nodes, trigger.Streams →
        (∃ first ∈ (g.mainTargets trigger.name).head?, first.node = agent.name) →
          trigger.Gets ds .streamingAgentHasOutput := by
  constructor
  · intro trigger htrigger hgets
    obtain ⟨hstreams, agent, hagent⟩ := (gets_agentHasOutput_iff hnames h htrigger).1 hgets
    obtain ⟨first, hfirst, hname⟩ := hagent.named
    refine ⟨hstreams, first, hfirst, agent, hagent.mem, hname, hagent.category_eq, ?_⟩
    intro henabled
    -- the trigger is one of those behind the agent, the first target being among all of them
    have hbehind : g.StreamsTo agent.name := (Rules.streamsTo_iff htable agent.name).2
      ⟨trigger, htrigger, hstreams, first, List.mem_of_mem_head? hfirst, hname.symm⟩
    exact (gets_withMainOutput_iff htable hnames h hagent.mem).2
      ⟨henabled, hagent.category_eq, hbehind, hagent.outputs⟩
  · intro agent hagent hgets
    obtain ⟨-, hcategory, hbehind, houtputs⟩ :=
      (gets_withMainOutput_iff htable hnames h hagent).1 hgets
    refine ⟨(Rules.streamsTo_iff htable agent.name).1 hbehind, ?_⟩
    rintro trigger htrigger hstreams ⟨first, hfirst, hname⟩
    exact (gets_agentHasOutput_iff hnames h htrigger).2
      ⟨hstreams, agent, hagent, ⟨first, hfirst, hname.symm⟩, hcategory, houtputs⟩

/-- Chats stream to an agent that hands its answer on to itself. The agent is the first target of
the first one only, and the third one is not at work. -/
def loopedAgent : Graph where
  name := none
  nodes :=
    [chat "first" false, chat "second" false, chat "third" true, agent,
      ⟨none, "sheet", "n8n-nodes-base.sheet", .int 1, [], [], false, []⟩]
  connections :=
    [(.text "first", .map [(.text "main", .list [.null, .list [entry "agent", entry "sheet"]])]),
      (.text "second", .map [(.text "main", .list [.list [entry "sheet"], .list [entry "agent"]])]),
      (.text "third", .map [(.text "main", .list [.list [entry "agent"]])]),
      (.text "agent", .map [(.text "main", .list [.list [entry "agent"]])])]
  extra := []
where
  chat (name : String) (disabled : Bool) : Node :=
    ⟨none, name, NodeType.chatTriggerType, .int 1, [(.text "responseMode", .text "streaming")], [],
      disabled, []⟩
  agent : Node := ⟨none, "agent", NodeType.agentType, .int 1, [], [], false, []⟩
  entry (node : String) : Value := .map [(.text "node", .text node)]

def loopedDiagnostics : List Diagnostic :=
  [⟨.error (.streamingAgentHasOutput "agent"), "Chat Trigger", none, "first"⟩,
    ⟨.error (.streamingWrongTarget "sheet" "n8n-nodes-base.sheet"), "Chat Trigger", none,
      "second"⟩,
    ⟨.error .agentWithoutModel, "AI Agent", none, "agent"⟩,
    ⟨.info .missingSystemMessage, "AI Agent", none, "agent"⟩,
    ⟨.error .streamingWithMainOutput, "AI Agent", none, "agent"⟩,
    ⟨.info .noToolsConnected, "AI Agent", none, "agent"⟩]

/-- The conflict is told at the agent and at the first chat, and at no other chat. -/
theorem streaming_consistent_loopedAgent :
    loopedAgent.TableDistinct ∧ loopedAgent.NamesDistinct
    ∧ graph loopedAgent {} = .ok loopedDiagnostics
    ∧ loopedAgent.agent.Gets loopedDiagnostics .streamingWithMainOutput
    ∧ (loopedAgent.chat "first" false).Gets loopedDiagnostics .streamingAgentHasOutput
    ∧ (∃ agent ∈ loopedAgent.nodes, agent.category = .agent
      ∧ (agent.disabled = false → agent.Gets loopedDiagnostics .streamingWithMainOutput))
    ∧ ¬ (loopedAgent.chat "second" false).Gets loopedDiagnostics .streamingAgentHasOutput
    ∧ ¬ (loopedAgent.chat "third" true).Gets loopedDiagnostics .streamingAgentHasOutput := by
  have htable : loopedAgent.TableDistinct := ⟨by decide, by decide⟩
  have hnames : loopedAgent.NamesDistinct := by
    unfold Graph.NamesDistinct
    decide
  have hrun : graph loopedAgent {} = .ok loopedDiagnostics := rfl
  obtain ⟨htrigger, hagent⟩ := streaming_consistent htable hnames hrun
  have hfirst : (loopedAgent.chat "first" false).Streams := ⟨rfl, rfl, rfl⟩
  have hgets : loopedAgent.agent.Gets loopedDiagnostics .streamingWithMainOutput := by
    unfold Node.Gets
    decide
  have hback := (hagent _ (.tail _ (.tail _ (.tail _ (.head _)))) hgets).2
    _ (.head _) hfirst ⟨⟨"agent", 0⟩, rfl, rfl⟩
  obtain ⟨-, -, -, other, hother, -, hcategory, hforth⟩ := htrigger _ (.head _) hback
  refine ⟨htable, hnames, hrun, hgets, hback, ⟨other, hother, hcategory, hforth⟩, ?_, ?_⟩
  · unfold Node.Gets
    decide
  · unfold Node.Gets
    decide

end Check

end FlowLint
