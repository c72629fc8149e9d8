import FlowLint.Proofs.Check.Codes
import FlowLint.Proofs.Wiring.Transpose

/-!
# The verdict on the wiring

Eleven codes are about how agents, basic chains and chat triggers are wired. The checks decide them
over the reverse index and by looking names up. Here the same is said about the wires of the
connection table and the nodes of the graph alone (`Graph.WellWired`):

* **`isStreamingTarget_iff`**: a chat trigger in streaming mode is found behind an agent, through
  the index and by name, when one stands in the graph with a main wire to it.
* **`agentFindings_free_iff`**, **`chainFindings_free_iff`**, **`chatTriggerFindings_free_iff`**:
  what it takes for a node of each of the three categories to have none of the codes. The checks of
  tools never give them (`toolKindFindings_free`).
* **`wiringCodes_free_iff`**: a run gives none of the codes exactly when the graph is well wired.
-/

namespace FlowLint

/-! ## What is said of the wires -/

/-- The codes about how nodes are wired. -/
def wiringCodes : List Code :=
  [.missingLanguageModel, .tooManyLanguageModels, .multipleLanguageModels,
    .fallbackMissingSecondModel, .missingOutputParser, .multipleOutputParsers,
    .multipleMemoryConnections, .streamingWithMainOutput, .missingConnections,
    .streamingWrongTarget, .streamingAgentHasOutput]

/-- The node has the literal true under a parameter. -/
def Node.HasTrue (node : Node) (key : String) : Prop :=
  node.parameters.get? key = some (.bool true)

/-- The node asks for answers to be streamed, by a parameter or by an option. -/
def Node.AsksForStream (node : Node) : Prop :=
  node.parameters.option? "responseMode" = some (.text "streaming")

namespace Graph

/-- The wires out of a node on the main port, in the order of the table. -/
def mainWires (g : Graph) (source : String) : List Wire :=
  g.wires.filter fun wire => wire.port == Port.main.name && wire.source == source

/-- A chat trigger at work streams to the node of a name. -/
def StreamsTo (g : Graph) (name : String) : Prop :=
  ∃ trigger ∈ g.nodes, trigger.disabled = false ∧ trigger.category = .chatTrigger
    ∧ trigger.AsksForStream ∧ ∃ wire ∈ g.mainWires trigger.name, wire.target = name

/-- How an agent is to be wired. -/
structure AgentWired (g : Graph) (settings : Settings) (node : Node) : Prop where
  model_given : 1 ≤ g.wireCount node.name .languageModel
  models_le : g.wireCount node.name .languageModel ≤ settings.maxLanguageModels.value
  fallback_given : node.HasTrue "needsFallback" → 2 ≤ g.wireCount node.name .languageModel
  parser_given : node.HasTrue "hasOutputParser" → 1 ≤ g.wireCount node.name .outputParser
  parsers_le : g.wireCount node.name .outputParser ≤ 1
  memories_le : g.wireCount node.name .memory ≤ 1
  stream_ends : g.StreamsTo node.name → g.mainWires node.name = []

/-- How a chat trigger is to be wired. In streaming mode, the node that its first main wire leads to
is an agent without main wires; a name that no node has is passed over. -/
structure TriggerWired (g : Graph) (node : Node) : Prop where
  connected : g.mainWires node.name ≠ []
  streams_to_agent : node.AsksForStream → ∀ first ∈ (g.mainWires node.name).head?,
    ∀ target ∈ g.nodes, target.name = first.target →
      target.category = .agent ∧ g.mainWires target.name = []

/-- How a node is to be wired, by its category. -/
def NodeWired (g : Graph) (settings : Settings) (node : Node) : Prop :=
  match node.category with
  | .agent => g.AgentWired settings node
  | .basicChain => g.wireCount node.name .languageModel = 1
  | .chatTrigger => g.TriggerWired node
  | _ => True

/-- Every node that is at work is wired as its category asks. -/
def WellWired (g : Graph) (settings : Settings) : Prop :=
  ∀ node ∈ g.nodes, node.disabled = false → g.NodeWired settings node

end Graph

/-- No finding is about the wiring. -/
abbrev WiringFree (found : List Finding) : Prop :=
  AllFound (·.code ∉ wiringCodes) found

theorem WiringFree.of_codesIn {codes : List Code} {found : List Finding} (h : CodesIn codes found)
    (hother : ∀ code ∈ codes, code ∉ wiringCodes) : WiringFree found :=
  h.imp fun f hcode => hother f.code hcode

/-! ## The index and the table say the same -/

namespace Rules

variable {g : Graph} {settings : Settings} {node : Node}

theorem wired_eq_wireCount (h : g.TableDistinct) (port : Port) :
    wired (.of g settings) node port = g.wireCount node.name port :=
  ReverseIndex.countInbound_build h node.name port

theorem map_node_mainTargets (h : g.TableDistinct) (source : String) :
    (g.mainTargets source).map (·.node) = (g.mainWires source).map (·.target) :=
  Graph.map_node_outbound h source Port.main.name

theorem mainTargets_eq_nil_iff (h : g.TableDistinct) (source : String) :
    g.mainTargets source = [] ↔ g.mainWires source = [] := by
  rw [← List.map_eq_nil_iff (f := fun target : Target => target.node), map_node_mainTargets h,
    List.map_eq_nil_iff]

theorem isTrue_param?_iff (key : String) :
    Param.isTrue (node.parameters.param? key) = true ↔ node.HasTrue key := by
  rw [Param.isTrue_iff, Members.param?_eq_some_iff, Node.HasTrue]
  exact and_iff_left_of_imp fun _ => by simp

/-- The mode is streaming when it is asked for; what is no text counts as the default. -/
theorem responseMode_eq_streaming_iff : responseMode node = streamingMode ↔ node.AsksForStream := by
  unfold responseMode Node.AsksForStream Param.text?
  cases hmode : node.parameters.option? "responseMode" with
  | none => simp [streamingMode, lastNodeMode]
  | some value =>
    cases value with
    | scalar s => cases s <;> simp [Value.text?, streamingMode, lastNodeMode]
    | _ => simp [Value.text?, streamingMode, lastNodeMode]

theorem isStreamingSource_iff :
    isStreamingSource node = true
      ↔ node.disabled = false ∧ node.category = .chatTrigger ∧ node.AsksForStream := by
  unfold isStreamingSource Node.isChatTrigger
  rw [← responseMode_eq_streaming_iff]
  simp only [Bool.and_eq_true, Bool.not_eq_true', beq_iff_eq, and_assoc]

/-- **The trigger behind an agent.** The index leads back along the main wires to the names of their
sources, and a name leads to the node that has it. -/
theorem isStreamingTarget_iff (htable : g.TableDistinct) (hnames : g.NamesDistinct) :
    isStreamingTarget (.of g settings) node = true ↔ g.StreamsTo node.name := by
  show (((ReverseIndex.build g).inbound node.name Port.main.name).any fun edge =>
    (g.node? edge.source).any isStreamingSource) = true ↔ _
  rw [ReverseIndex.inbound_build htable, List.any_eq_true]
  constructor
  -- an edge of the index is a main wire, and the trigger found under its source is that wire's
  · rintro ⟨edge, hedge, hsource⟩
    obtain ⟨wire, hwire, rfl⟩ := List.mem_map.1 hedge
    obtain ⟨hmem, hport, htarget⟩ : wire ∈ g.wires ∧ wire.port = Port.main.name
        ∧ wire.target = node.name := by
      simpa using hwire
    obtain ⟨trigger, htrigger, hstreams⟩ := (Option.any_eq_true _ _).1 hsource
    obtain ⟨hin, hname⟩ := (Graph.node?_eq_some_iff hnames _ _).1 htrigger
    obtain ⟨henabled, hcategory, hasks⟩ := isStreamingSource_iff.1 hstreams
    refine ⟨trigger, hin, henabled, hcategory, hasks, wire, ?_, htarget⟩
    rw [Graph.mainWires, List.mem_filter]
    exact ⟨hmem, by simp [hport, hname, Wire.edge]⟩
  · rintro ⟨trigger, hin, henabled, hcategory, hasks, wire, hwire, htarget⟩
    rw [Graph.mainWires, List.mem_filter] at hwire
    obtain ⟨hport, hsource⟩ : wire.port = Port.main.name ∧ wire.source = trigger.name := by
      simpa using hwire.2
    refine ⟨wire.edge, List.mem_map.2 ⟨wire, List.mem_filter.2 ⟨hwire.1, ?_⟩, rfl⟩, ?_⟩
    · simp [hport, htarget]
    · refine (Option.any_eq_true _ _).2 ⟨trigger, ?_, ?_⟩
      · exact (Graph.node?_eq_some_iff hnames _ _).2 ⟨hin, hsource.symm⟩
      · exact isStreamingSource_iff.2 ⟨henabled, hcategory, hasks⟩

/-! ## One node

Each check first, then the checks of a category together. -/

theorem modelFindings_free_iff (h : g.TableDistinct) :
    WiringFree (modelFindings (.of g settings) node)
      ↔ 1 ≤ g.wireCount node.name .languageModel
        ∧ g.wireCount node.name .languageModel ≤ settings.maxLanguageModels.value := by
  simp only [modelFindings, wired_eq_wireCount h, Context.of_settings, AllFound.ite_iff,
    AllFound.singleton_iff]
  simp [Finding.code, wiringCodes]
  omega

theorem fallbackFindings_free_iff (h : g.TableDistinct) :
    WiringFree (fallbackFindings (.of g settings) node)
      ↔ ¬ (g.wireCount node.name .languageModel = 1 ∧ node.HasTrue "needsFallback") := by
  simp only [fallbackFindings, AllFound.append_iff, AllFound.ite_iff, AllFound.singleton_iff]
  rw [wired_eq_wireCount h, needsFallback, isTrue_param?_iff]
  simp [Finding.code, wiringCodes]

theorem parserFindings_free_iff (h : g.TableDistinct) :
    WiringFree (parserFindings (.of g settings) node)
      ↔ (node.HasTrue "hasOutputParser" → 1 ≤ g.wireCount node.name .outputParser)
        ∧ g.wireCount node.name .outputParser ≤ 1 := by
  simp only [parserFindings, AllFound.append_iff, AllFound.ite_iff, AllFound.singleton_iff]
  rw [wired_eq_wireCount h, asksForParser, isTrue_param?_iff]
  simp [Finding.code, wiringCodes, Nat.one_le_iff_ne_zero]

theorem streamingFindings_free_iff (htable : g.TableDistinct) (hnames : g.NamesDistinct) :
    WiringFree (streamingFindings (.of g settings) node)
      ↔ (g.StreamsTo node.name → g.mainWires node.name = []) := by
  simp only [streamingFindings, AllFound.ite_iff, AllFound.singleton_iff]
  rw [Bool.and_eq_true, isStreamingTarget_iff htable hnames, Context.of_graph]
  simp [Finding.code, wiringCodes, mainTargets_eq_nil_iff htable]

theorem memoryFindings_free_iff (h : g.TableDistinct) :
    WiringFree (memoryFindings (.of g settings) node) ↔ g.wireCount node.name .memory ≤ 1 := by
  simp only [memoryFindings, wired_eq_wireCount h, AllFound.ite_iff, AllFound.singleton_iff]
  simp [Finding.code, wiringCodes]

/-- **An agent has none of the codes when it is wired as agents are.** -/
theorem agentFindings_free_iff (htable : g.TableDistinct) (hnames : g.NamesDistinct) :
    WiringFree (agentFindings (.of g settings) node) ↔ g.AgentWired settings node := by
  -- four of the nine checks never give one of the codes
  have hprompt : WiringFree (promptFindings node) :=
    WiringFree.of_codesIn (inOrder_promptFindings node).codesIn (by decide)
  have hmessage : WiringFree (systemMessageFindings (.of g settings) node) :=
    WiringFree.of_codesIn (inOrder_systemMessageFindings _ node).codesIn (by decide)
  have htools : WiringFree (toolFindings (.of g settings) node) :=
    WiringFree.of_codesIn (inOrder_toolFindings _ node).codesIn (by decide)
  have hiterations : WiringFree (iterationFindings node settings) :=
    WiringFree.of_codesIn (inOrder_iterationFindings node settings).codesIn (by decide)
  simp only [agentFindings, AllFound.append_iff, modelFindings_free_iff htable,
    fallbackFindings_free_iff htable, parserFindings_free_iff htable,
    streamingFindings_free_iff htable hnames, memoryFindings_free_iff htable, Context.of_settings,
    hprompt, hmessage, htools, hiterations, and_true]
  constructor
  · rintro ⟨⟨⟨⟨⟨hmodel, hlimit⟩, hfallback⟩, hparser, hparsers⟩, hstream⟩, hmemories⟩
    refine ⟨hmodel, hlimit, fun hneeds => ?_, hparser, hparsers, hmemories, hstream⟩
    -- the check speaks of one model only; that there is one is the first check's concern
    have hnotOne : g.wireCount node.name .languageModel ≠ 1 := fun hone => hfallback ⟨hone, hneeds⟩
    omega
  · rintro ⟨hmodel, hlimit, hfallback, hparser, hparsers, hmemories, hstream⟩
    refine ⟨⟨⟨⟨⟨hmodel, hlimit⟩, ?_⟩, hparser, hparsers⟩, hstream⟩, hmemories⟩
    rintro ⟨hone, hneeds⟩
    have htwo := hfallback hneeds
    omega

/-- **A basic chain has none of the codes when it has one model.** -/
theorem chainFindings_free_iff (h : g.TableDistinct) :
    WiringFree (chainFindings (.of g settings) node)
      ↔ g.wireCount node.name .languageModel = 1 := by
  have hprompt : WiringFree (promptFindings node) :=
    WiringFree.of_codesIn (inOrder_promptFindings node).codesIn (by decide)
  have hcount : (Context.of g settings).index.countInbound node.name .languageModel
      = g.wireCount node.name .languageModel :=
    ReverseIndex.countInbound_build h node.name .languageModel
  simp only [chainFindings, chainModelFindings, hcount, AllFound.append_iff, AllFound.ite_iff,
    AllFound.singleton_iff, hprompt, and_true]
  simp [Finding.code, wiringCodes]
  omega

/-- Between a trigger and its target the codes are given in streaming mode only. -/
theorem targetFindings_free_iff (h : g.TableDistinct) (target : Node) :
    WiringFree (targetFindings (.of g settings) (responseMode node) target)
      ↔ (node.AsksForStream → target.category = .agent ∧ g.mainWires target.name = []) := by
  simp only [targetFindings, AllFound.ite_iff, AllFound.singleton_iff]
  rw [responseMode_eq_streaming_iff, Context.of_graph]
  by_cases hagent : target.category = .agent <;>
    simp [Finding.code, wiringCodes, mainTargets_eq_nil_iff h, Node.isAgent, hagent]

/-- What is asked of the node of a name is asked of the node found under it, if there is one. -/
theorem forall_named_iff (h : g.NamesDistinct) (name : String) (P : Node → Prop) :
    (∀ target ∈ g.nodes, target.name = name → P target)
      ↔ ∀ target, g.node? name = some target → P target := by
  refine forall_congr' fun target => ?_
  rw [Graph.node?_eq_some_iff h, and_imp]

/-- **A chat trigger has none of the codes when it is wired as chat triggers are.** -/
theorem chatTriggerFindings_free_iff (htable : g.TableDistinct) (hnames : g.NamesDistinct) :
    WiringFree (chatTriggerFindings (.of g settings) node) ↔ g.TriggerWired node := by
  have hmap := map_node_mainTargets htable node.name
  unfold chatTriggerFindings
  rw [Context.of_graph]
  cases hwires : g.mainWires node.name with
  | nil =>
    rw [(mainTargets_eq_nil_iff htable node.name).2 hwires]
    have hcode : (Finding.error .missingConnections).code ∈ wiringCodes := by decide
    constructor
    · intro hfree
      exact absurd hcode (AllFound.singleton_iff.1 hfree)
    · intro hwired
      exact absurd hwires hwired.connected
  | cons wire wires =>
    have hwired : g.TriggerWired node ↔ (node.AsksForStream → ∀ target,
        g.node? wire.target = some target →
          target.category = .agent ∧ g.mainWires target.name = []) := by
      rw [← forall_named_iff hnames]
      constructor
      · intro hwired hasks
        exact hwired.streams_to_agent hasks wire (by rw [hwires]; rfl)
      · intro hstreams
        refine ⟨by rw [hwires]; exact List.cons_ne_nil _ _, fun hasks first hfirst => ?_⟩
        rw [hwires, List.head?_cons, Option.mem_some_iff] at hfirst
        exact hfirst ▸ hstreams hasks
    -- the first target is where the first wire leads
    cases htargets : g.mainTargets node.name with
    | nil =>
      rw [htargets, hwires] at hmap
      exact nomatch hmap
    | cons first rest =>
      rw [htargets, hwires, List.map_cons, List.map_cons, List.cons.injEq] at hmap
      rw [hwired, ← hmap.1]
      dsimp only
      cases g.node? first.node with
      | none => simp
      | some target =>
        rw [targetFindings_free_iff htable]
        simp

theorem toolKindFindings_free {kind : ToolKind} {found : List Finding}
    (h : toolKindFindings kind node settings = .ok found) : WiringFree found := by
  refine WiringFree.of_codesIn (codesIn_toolKindFindings h) ?_
  cases kind <;> decide

end Rules

/-! ## All nodes -/

namespace Check

variable {g : Graph} {settings : Settings}

/-- The checks of a category give none of the codes when the node is wired as the category asks. -/
theorem findings_free_iff (htable : g.TableDistinct) (hnames : g.NamesDistinct) {n : Node}
    {found : List Finding} (h : findings (.of g settings) n.category n = .ok found) :
    WiringFree found ↔ g.NodeWired settings n := by
  unfold Graph.NodeWired
  cases hcategory : n.category with
  | agent =>
    rw [hcategory] at h
    obtain rfl := eq_agentFindings h
    exact Rules.agentFindings_free_iff htable hnames
  | chatTrigger =>
    rw [hcategory] at h
    cases h
    exact Rules.chatTriggerFindings_free_iff htable hnames
  | basicChain =>
    rw [hcategory] at h
    cases h
    exact Rules.chainFindings_free_iff htable
  | tool kind =>
    rw [hcategory] at h
    have hfree := Rules.toolKindFindings_free (toolKindFindings_of_findings h)
    exact iff_of_true hfree trivial
  | other =>
    rw [hcategory] at h
    cases h
    exact iff_of_true (.nil _) trivial

/-- **The verdict on the wiring is sound and complete.** A run that returns gives none of the codes
about wiring exactly when every node at work is wired as its category asks. -/
theorem wiringCodes_free_iff {g : Graph} {settings : Settings} {ds : List Diagnostic}
    (htable : g.TableDistinct) (hnames : g.NamesDistinct) (h : graph g settings = .ok ds) :
    (∀ d ∈ ds, d.code ∉ wiringCodes) ↔ g.WellWired settings := by
  rw [forall_code_iff h (· ∉ wiringCodes)]
  refine forall_congr' fun n => forall_congr' fun hn => ?_
  obtain ⟨found, hfound⟩ := (mem_of_nodes_eq_ok h).1 n hn
  rw [nodeFindings] at hfound ⊢
  by_cases hdisabled : n.disabled = true
  -- nothing is found in a disabled node, and nothing is asked of it
  · rw [if_pos hdisabled]
    refine iff_of_true ?_ fun henabled => absurd hdisabled (by simp [henabled])
    intro found hnone
    cases hnone
    exact AllFound.nil _
  · rw [if_neg hdisabled] at hfound ⊢
    rw [← findings_free_iff htable hnames hfound, hfound]
    constructor
    · intro hall _
      exact hall found rfl
    · rintro hfree _ ⟨⟩
      exact hfree (by simpa using hdisabled)

/-- A chat streams to an agent with two models, the second being its fallback. -/
def streamedAgent : Graph where
  name := none
  nodes :=
    [named "chat" NodeType.chatTriggerType
        [(.text "options", .map [(.text "responseMode", .text "streaming")])],
      named "agent" NodeType.agentType [(.text "needsFallback", .bool true)],
      named "m" "" [], named "n" "" []]
  connections :=
    [(.text "chat", .map [(.text "main", .list [.null, .list [entry "agent"]])]),
      (.text "m", .map [(.text "ai_languageModel", .list [.list [entry "agent"]])]),
      (.text "n", .map [(.text "ai_languageModel", .list [.list [entry "agent"]])])]
  extra := []
where
  named (name type : String) (parameters : Members) : Node :=
    ⟨none, name, type, .int 1, parameters, [], false, []⟩
  entry (node : String) : Value := .map [(.text "node", .text node)]

/-- It is well wired, but it is not when an agent may have one model only. -/
theorem wiringCodes_free_streamedAgent :
    streamedAgent.TableDistinct ∧ streamedAgent.NamesDistinct
    ∧ (∃ ds, graph streamedAgent {} = .ok ds ∧ ds.length = 2 ∧ ∀ d ∈ ds, d.code ∉ wiringCodes)
    ∧ streamedAgent.WellWired {}
    ∧ ¬ streamedAgent.WellWired { maxLanguageModels := ⟨1, by decide⟩ } := by
  have htable : streamedAgent.TableDistinct := ⟨by decide, by decide⟩
  have hnames : streamedAgent.NamesDistinct := by
    unfold Graph.NamesDistinct
    decide
  have hrun : graph streamedAgent {} = .ok
      [⟨.info .missingSystemMessage, "AI Agent", none, "agent"⟩,
        ⟨.info .noToolsConnected, "AI Agent", none, "agent"⟩] := rfl
  refine ⟨htable, hnames, ⟨_, hrun, rfl, by decide⟩, ?_, ?_⟩
  · exact (wiringCodes_free_iff htable hnames hrun).1 (by decide)
  · intro hwired
    have hagent : streamedAgent.AgentWired { maxLanguageModels := ⟨1, by decide⟩ } _ :=
      hwired _ (.tail _ (.head _)) rfl
    exact absurd hagent.models_le (by decide)

end Check

end FlowLint
