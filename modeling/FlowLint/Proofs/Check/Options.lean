import FlowLint.Proofs.Check.Lookups

/-!
# Where an option stands

An option stands at the top of the parameters or, as newer nodes have it, among the members of
`options`. The one at the top counts where there are two. It is read in three places, by the check
of an agent, by that of a chat trigger, and by an agent that looks back at its chat triggers, and in
all of them it may stand in either place.

* **`Members.option?_moveOption`**: an option leads to the same value after one was moved.
* **`Node.readsAlike_moveOption`**: so a node reads alike, to itself and to others.
* **`Check.nodes_set`**: a run ends in the same way when a node gives way to one that gives the
  same.
* **`Check.option_place_invisible`**: no run can tell where an option stands.
-/

namespace FlowLint

/-! ## Moving an option -/

namespace Members

/-- The members of `options`, if that is a mapping. -/
def nested (params : Members) : Members :=
  ((params.param? "options").bind Value.members?).getD []

/-- The parameters with an option taken from the top and set among the members of `options`, where
it replaces one of its name. What is no mapping under `options` gives way to one. -/
def moveOption (params : Members) (key : String) (value : Value) : Members :=
  set (.text "options") (.map (set (.text key) value params.nested)) (params.without [key])

theorem option?_eq_nested (params : Members) (key : String) :
    params.option? key = (params.param? key <|> params.nested.param? key) := by
  rw [option?_eq, nested]
  cases params.param? "options" with
  | none => rfl
  | some stated =>
    rw [Option.bind_some, Option.bind_some, Value.param?]
    cases stated.members? <;> rfl

theorem param?_congr {members members' : Members} {key : String}
    (h : members'.get? key = members.get? key) : members'.param? key = members.param? key := by
  rw [param?, param?, h]

theorem param?_set_self {value : Value} (h : value ≠ .null) (key : String) (members : Members) :
    param? (set (.text key) value members) key = some value := by
  rw [param?_eq_some_iff, get?_set, if_pos rfl]
  exact ⟨rfl, h⟩

theorem param?_set_of_ne {key name : String} (h : name ≠ key) (value : Value) (members : Members) :
    param? (set (.text key) value members) name = members.param? name := by
  refine param?_congr ?_
  rw [get?_set, if_neg fun hsame => h (Scalar.text.inj hsame).symm]

section

variable {params : Members} {key : String} {value : Value}

/-- Parameters other than the option and `options` stay as they are. -/
theorem param?_moveOption_of_ne {name : String} (hplace : name ≠ "options") (hname : name ≠ key) :
    (params.moveOption key value).param? name = params.param? name := by
  rw [moveOption, param?_set_of_ne hplace]
  refine param?_congr ?_
  rw [get?_without, if_neg (by simpa using hname)]

/-- The option is gone from the top. -/
theorem param?_moveOption_self (hplace : key ≠ "options") :
    (params.moveOption key value).param? key = none := by
  rw [moveOption, param?_set_of_ne hplace, param?, get?_without, if_pos (by simp)]

/-- The option stands among the members of `options`. -/
theorem nested_moveOption :
    (params.moveOption key value).nested = set (.text key) value params.nested := by
  have hmap : Value.map (set (.text key) value params.nested) ≠ .null := nofun
  rw [nested, moveOption, param?_set_self hmap, Option.bind_some, Value.members?_map,
    Option.getD_some]

/-- **Every option leads to the same value**, the one that was moved and the others. -/
theorem option?_moveOption (hplace : key ≠ "options") (hvalue : params.param? key = some value)
    {name : String} (hname : name ≠ "options") :
    (params.moveOption key value).option? name = params.option? name := by
  rw [option?_eq_nested, option?_eq_nested, nested_moveOption]
  by_cases hsame : name = key
  · -- what stood at the top came before what it replaces
    subst hsame
    rw [param?_moveOption_self hplace, hvalue,
      param?_set_self (param?_eq_some_iff.1 hvalue).2]
    rfl
  · rw [param?_moveOption_of_ne hname hsame, param?_set_of_ne hsame]

end

end Members

namespace Node

/-- The node with an option taken from the top of its parameters and set among the others. -/
def moveOption (node : Node) (key : String) (value : Value) : Node :=
  { node with parameters := node.parameters.moveOption key value }

/-- **A node reads alike** after one of its options was moved. -/
theorem readsAlike_moveOption {node : Node} {key : String} {value : Value}
    (hkey : key ∈ Rules.optionKeys) (hvalue : node.parameters.param? key = some value) :
    node.ReadsAlike (node.moveOption key value) where
  id_eq := rfl
  name_eq := rfl
  type_eq := rfl
  disabled_eq := rfl
  param_eq := by
    intro name hplace hname
    exact Members.param?_moveOption_of_ne hplace fun hsame => hname (hsame ▸ hkey)
  option_eq := by
    intro name hname
    have hplaced : ∀ other ∈ Rules.optionKeys, other ≠ "options" := by decide
    exact Members.option?_moveOption (hplaced key hkey) hvalue (hplaced name hname)
  credential_eq _ := rfl

end Node

/-! ## Runs -/

namespace Check

/-- A run ends in the same way when a node gives way to one that gives the same. -/
theorem nodes_set {ctx : Context} {ns : List Node} {position : Nat} {old new : Node}
    (hold : ns[position]? = some old) (hsame : node ctx new = node ctx old) :
    nodes ctx (ns.set position new) = nodes ctx ns := by
  induction ns generalizing position with
  | nil => rfl
  | cons first rest ih =>
    cases position with
    | zero =>
      cases hold
      rw [List.set_cons_zero, nodes, nodes, hsame]
    | succ position =>
      rw [List.set_cons_succ, nodes, nodes, ih hold]

/-- A node gives the same after one of its options was moved: its credentials stay, so a request has
them as before. -/
theorem node_moveOption {n : Node} {key : String} {value : Value} (hkey : key ∈ Rules.optionKeys)
    (hvalue : n.parameters.param? key = some value) (ctx : Context) :
    node ctx (n.moveOption key value) = node ctx n := by
  have halike := Node.readsAlike_moveOption hkey hvalue
  refine node_eq_of_readsAlike halike (fun _ _ => ?_) ctx
  rw [Rules.requestCredentialFindings, Rules.requestCredentialFindings,
    halike.param_eq "authentication" (by decide) (by decide)]
  rfl

/-- **No run can tell where an option stands.** When an option of a node is moved from the top of
its parameters to the members of `options`, the node gives the same as before, and so does every
other one. So a trigger finds the same at its first target, and an agent that looks back finds a
streaming trigger where it found one before. -/
theorem option_place_invisible {g : Graph} {position : Nat} {n : Node} {key : String}
    {value : Value} (hn : g.nodes[position]? = some n) (hkey : key ∈ Rules.optionKeys)
    (hvalue : n.parameters.param? key = some value) (settings : Settings) :
    graph (g.edited position (n.moveOption key value)) settings = graph g settings
    ∧ node (.of (g.edited position (n.moveOption key value)) settings) (n.moveOption key value)
      = node (.of g settings) n
    ∧ (∀ m, node (.of (g.edited position (n.moveOption key value)) settings) m
      = node (.of g settings) m)
    ∧ (∀ m, Rules.isStreamingTarget (.of (g.edited position (n.moveOption key value)) settings) m
      = Rules.isStreamingTarget (.of g settings) m) := by
  have halike := Node.readsAlike_moveOption hkey hvalue
  have hgraph : g.SeenAlike (g.edited position (n.moveOption key value)) :=
    Graph.seenAlike_edited hn halike.seenAlike
  have hothers := node_eq_of_seenAlike hgraph settings
  refine ⟨?_, ?_, hothers, fun m => hgraph.mirrors.isStreamingTarget_eq settings rfl⟩
  · calc graph (g.edited position (n.moveOption key value)) settings
        = nodes (.of g settings) (g.nodes.set position (n.moveOption key value)) := by
          rw [graph, nodes_eq_walk, nodes_eq_walk, funext hothers]
          rfl
      _ = graph g settings := nodes_set hn (node_moveOption hkey hvalue _)
  · rw [hothers, node_moveOption hkey hvalue]

/-- A chat that streams to an agent with a main output. Its older options have another mode. -/
def streamedTalk : Graph where
  name := none
  nodes := [chat, agent]
  connections :=
    [(.text "chat", .map [(.text "main", .list [.list [entry]])]),
      (.text "agent", .map [(.text "main", .list [.list [entry]])])]
  extra := []
where
  chat : Node :=
    ⟨none, "chat", NodeType.chatTriggerType, .int 1,
      [(.text "responseMode", .text "streaming"),
        (.text "options", .map [(.text "responseMode", .text "lastNode"),
          (.text "title", .text "Hi")])], [], false, []⟩
  agent : Node :=
    ⟨none, "agent", NodeType.agentType, .int 1,
      [(.text "systemMessage", .text "Answer in one short sentence.")], [], false, []⟩
  entry : Value := .map [(.text "node", .text "agent")]

/-- The diagnostics of the talk, which see the streaming from both sides. -/
def streamedTalk.diagnostics : List Diagnostic :=
  [⟨.error (.streamingAgentHasOutput "agent"), "Chat Trigger", none, "chat"⟩,
    ⟨.error .agentWithoutModel, "AI Agent", none, "agent"⟩,
    ⟨.error .streamingWithMainOutput, "AI Agent", none, "agent"⟩,
    ⟨.info .noToolsConnected, "AI Agent", none, "agent"⟩]

/-- Neither the mode of the chat nor the message of the agent is missed when it is moved, while both
sides see it when the mode is dropped and the older one comes to light. -/
theorem option_place_invisible_streamedTalk :
    streamedTalk.chat.moveOption "responseMode" (.text "streaming")
      = { streamedTalk.chat with
          parameters :=
            [(.text "options", .map [(.text "responseMode", .text "streaming"),
              (.text "title", .text "Hi")])] }
    ∧ graph streamedTalk {} = .ok streamedTalk.diagnostics
    ∧ graph (streamedTalk.edited 0
        (streamedTalk.chat.moveOption "responseMode" (.text "streaming"))) {}
      = .ok streamedTalk.diagnostics
    ∧ graph (streamedTalk.edited 1
        (streamedTalk.agent.moveOption "systemMessage" (.text "Answer in one short sentence."))) {}
      = .ok streamedTalk.diagnostics
    ∧ graph (streamedTalk.edited 0
        { streamedTalk.chat with
          parameters := streamedTalk.chat.parameters.without ["responseMode"] }) {}
      = .ok [⟨.info .streamingRecommended, "Chat Trigger", none, "chat"⟩,
          ⟨.error .agentWithoutModel, "AI Agent", none, "agent"⟩,
          ⟨.info .noToolsConnected, "AI Agent", none, "agent"⟩] := by
  have hgraph : graph streamedTalk {} = .ok streamedTalk.diagnostics := rfl
  have hmode : streamedTalk.chat.parameters.param? "responseMode" = some (.text "streaming") := rfl
  have hmessage : streamedTalk.agent.parameters.param? "systemMessage"
      = some (.text "Answer in one short sentence.") := rfl
  have hchat : streamedTalk.nodes[0]? = some streamedTalk.chat := rfl
  have hagent : streamedTalk.nodes[1]? = some streamedTalk.agent := rfl
  have hmodeMoved := option_place_invisible hchat (by decide) hmode {}
  have hmessageMoved := option_place_invisible hagent (by decide) hmessage {}
  exact ⟨rfl, hgraph, hmodeMoved.1.trans hgraph, hmessageMoved.1.trans hgraph, rfl⟩

end Check

end FlowLint
