import FlowLint.Proofs.Check.Lookups
import FlowLint.Proofs.Graph.FromDocument

/-!
# Parameters and credentials that are null

A parameter that is null counts as absent, and so does a credential. Were that so in every check,
then all of them could be deleted and no one would notice. It is so wherever one is looked up by
its key, which is everywhere but in one place: a request that asks for predefined credentials looks
at its credentials as a whole, and takes null ones for credentials that are there.

* **`Members.param?_withoutNulls`**, **`Node.readsAlike_withoutNulls`**: a key leads to the same
  after the deletion. So the checks find the same, but for a request that hides behind null
  credentials (`Node.HidesCredentials`).
* **`Check.node_withoutNulls`**, **`Check.nodes_withoutNulls`**: such a node gives one diagnostic
  more after the deletion. This is one step of a run, and from it the whole run.
* **`Check.nulls_invisible_iff`**: the deletion is seen exactly when a run returns and a node
  hides.
-/

namespace FlowLint

/-! ## Deleting -/

def Value.isNull : Value → Bool
  | .null => true
  | _ => false

/-- The members that are not null. -/
def Members.withoutNulls (members : Members) : Members :=
  members.filter fun member => !member.2.isNull

/-- The node without the parameters and the credentials that are null. -/
def Node.withoutNulls (node : Node) : Node :=
  { node with
    parameters := node.parameters.withoutNulls
    credentials := node.credentials.withoutNulls }

/-- The graph without the parameters and the credentials that are null. -/
def Graph.withoutNulls (g : Graph) : Graph :=
  { g with nodes := g.nodes.map Node.withoutNulls }

/-- The node asks for predefined credentials and has some, all of which are null. -/
structure Node.HasNullCredentials (node : Node) : Prop where
  predefined : node.parameters.get? "authentication" = some (.text "predefinedCredentialType")
  given : node.credentials ≠ []
  nulls : ∀ member ∈ node.credentials, member.2 = .null

/-- The node is a request at work whose credentials are there and are all null. -/
structure Node.HidesCredentials (node : Node) : Prop extends node.HasNullCredentials where
  enabled : node.disabled = false
  category_eq : node.category = .tool .httpRequest

/-- The findings with one more among them, that credentials of a request are missing. -/
inductive LacksCredentials : List Finding → List Finding → Prop
  | mk (before after : List Finding) :
      LacksCredentials (before ++ after)
        (before ++ .error (.missingCredentials .request) :: after)

theorem Value.isNull_iff {value : Value} : value.isNull = true ↔ value = .null := by
  unfold isNull
  split
  · exact iff_of_true rfl rfl
  · next hnot => exact iff_of_false Bool.false_ne_true hnot

namespace Members

theorem withoutNulls_cons_null (key : Scalar) (rest : Members) :
    withoutNulls ((key, .null) :: rest) = rest.withoutNulls := by
  rw [withoutNulls, List.filter_cons_of_neg (by simp [Value.isNull])]
  rfl

theorem withoutNulls_cons_of_ne {key : Scalar} {value : Value} (h : value ≠ .null)
    (rest : Members) : withoutNulls ((key, value) :: rest) = (key, value) :: rest.withoutNulls := by
  have hnull : value.isNull = false := Bool.eq_false_iff.2 (mt Value.isNull_iff.1 h)
  rw [withoutNulls, List.filter_cons_of_pos (by rw [hnull]; rfl)]
  rfl

theorem param?_cons (key : Scalar) (value : Value) (rest : Members) (name : String) :
    param? ((key, value) :: rest) name
      = if key = .text name then (if value.isNull then none else some value)
        else rest.param? name := by
  rw [param?, get?_cons]
  by_cases hkey : key = .text name
  · rw [if_pos hkey, if_pos hkey]
    by_cases hnull : value = .null
    · rw [hnull]
      rfl
    · rw [if_neg (mt Value.isNull_iff.1 hnull)]
      split
      · next h => exact absurd (Option.some.inj h) hnull
      · rfl
  · rw [if_neg hkey, if_neg hkey]
    rfl

/-- **A key leads to the same parameter.** No other member of the key can come to light when a null
one is deleted. -/
theorem param?_withoutNulls {members : Members} (h : members.Distinct) (key : String) :
    members.withoutNulls.param? key = members.param? key := by
  induction members with
  | nil => rfl
  | cons member rest ih =>
    obtain ⟨k, value⟩ := member
    have ih := ih (List.pairwise_cons.1 h).2
    by_cases hnull : value = .null
    · subst hnull
      rw [withoutNulls_cons_null, ih, param?_cons]
      by_cases hkey : k = .text key
      · subst hkey
        rw [if_pos rfl, param?, get?_eq_none_of_distinct h]
        rfl
      · rw [if_neg hkey]
    · rw [withoutNulls_cons_of_ne hnull, param?_cons, param?_cons, ih]

theorem option?_withoutNulls {members : Members} (h : members.Distinct) (key : String) :
    members.withoutNulls.option? key = members.option? key := by
  rw [option?_eq, option?_eq, param?_withoutNulls h, param?_withoutNulls h]

theorem withoutNulls_eq_nil_iff {members : Members} :
    members.withoutNulls = [] ↔ ∀ member ∈ members, member.2 = .null := by
  rw [withoutNulls, List.filter_eq_nil_iff]
  refine forall₂_congr fun member _ => ?_
  rw [Bool.not_eq_true', Bool.not_eq_false, Value.isNull_iff]

end Members

/-! ## Check by check

All checks look keys up, so they find the same after the deletion. Only a request also asks whether
it has credentials at all. -/

/-- **A node reads alike** without its nulls. -/
theorem Node.readsAlike_withoutNulls {node : Node} (hparameters : node.parameters.Distinct)
    (hcredentials : node.credentials.Distinct) : node.ReadsAlike node.withoutNulls where
  id_eq := rfl
  name_eq := rfl
  type_eq := rfl
  disabled_eq := rfl
  param_eq key _ _ := Members.param?_withoutNulls hparameters key
  option_eq key _ := Members.option?_withoutNulls hparameters key
  credential_eq := Members.param?_withoutNulls hcredentials

namespace Rules

variable {node : Node} (hparameters : node.parameters.Distinct)

include hparameters

theorem param_withoutNulls (key : String) :
    node.withoutNulls.parameters.param? key = node.parameters.param? key :=
  Members.param?_withoutNulls hparameters key

/-- A request with null credentials is found to have some, and to have none after the deletion. -/
theorem requestCredentialFindings_of_nulls (h : node.HasNullCredentials) :
    requestCredentialFindings node = []
      ∧ requestCredentialFindings node.withoutNulls
        = [.error (.missingCredentials .request)] := by
  have hasks : Param.isText (node.parameters.param? "authentication") "predefinedCredentialType"
      = true := Param.isText_param?_iff.2 h.predefined
  have hgiven : node.credentials.isEmpty = false := List.isEmpty_eq_false_iff.2 h.given
  have hgone : node.withoutNulls.credentials.isEmpty = true :=
    List.isEmpty_iff.2 (Members.withoutNulls_eq_nil_iff.2 h.nulls)
  constructor
  · rw [requestCredentialFindings, hgiven, Bool.and_false, if_neg Bool.false_ne_true]
  · rw [requestCredentialFindings, param_withoutNulls hparameters, hasks, hgone, Bool.and_true,
      if_pos rfl]

theorem requestCredentialFindings_withoutNulls (h : ¬ node.HasNullCredentials) :
    requestCredentialFindings node.withoutNulls = requestCredentialFindings node := by
  unfold requestCredentialFindings
  rw [param_withoutNulls hparameters]
  by_cases hasks : Param.isText (node.parameters.param? "authentication")
      "predefinedCredentialType" = true
  · have hempty : node.withoutNulls.credentials.isEmpty = node.credentials.isEmpty := by
      rw [Bool.eq_iff_iff, List.isEmpty_iff, List.isEmpty_iff]
      constructor
      · intro hgone
        by_contra hgiven
        exact h ⟨Param.isText_param?_iff.1 hasks, hgiven, Members.withoutNulls_eq_nil_iff.1 hgone⟩
      · intro hnone
        rw [Node.withoutNulls, hnone]
        rfl
    rw [hempty]
  · rw [Bool.eq_false_iff.2 hasks, Bool.false_and, Bool.false_and]

/-- Where all credentials are null, they are found to be missing, and nothing else changes. -/
theorem httpRequestFindings_of_nulls (hcredentials : node.credentials.Distinct)
    (h : node.HasNullCredentials) (settings : Settings) :
    Outcome.Related LacksCredentials (httpRequestFindings node settings)
      (httpRequestFindings node.withoutNulls settings) := by
  obtain ⟨hbefore, hafter⟩ := requestCredentialFindings_of_nulls hparameters h
  rw [(Node.readsAlike_withoutNulls hparameters hcredentials).httpRequestFindings_eq,
    httpRequestFindings, hbefore, hafter]
  -- both end at the first step that fails, and the finding comes behind all of them
  cases worded (descriptionFindings node settings) with
  | error fault => exact .error fault
  | ok described =>
    cases urlFindings node with
    | error fault => exact .error fault
    | ok inUrl =>
      cases usedPlaceholders node with
      | error fault => exact .error fault
      | ok used =>
        have hmore := LacksCredentials.mk (described ++ inUrl ++ placeholderFindings node used)
          (methodFindings (requestMethod node) ++ bodyFindings node (requestMethod node))
        refine .ok ?_
        simpa only [List.append_assoc, List.append_nil, List.nil_append, List.cons_append]
          using hmore

end Rules

namespace LacksCredentials

variable {found found' : List Finding} (h : LacksCredentials found found')

include h

theorem length_eq : found'.length = found.length + 1 := by
  obtain ⟨before, after⟩ := h
  rw [List.length_append, List.length_append, List.length_cons]
  omega

theorem worded : Outcome.Related LacksCredentials (Rules.worded found) (Rules.worded found') := by
  -- the finding shows no value, so all can be worded as before
  have hfault : found'.findSome? (·.fault?) = found.findSome? (·.fault?) := by
    obtain ⟨before, after⟩ := h
    rw [List.findSome?_append, List.findSome?_append, List.findSome?_cons]
    rfl
  rw [Rules.worded, Rules.worded, hfault]
  split
  · exact .ok h
  · exact .error _

end LacksCredentials

/-! ## A run

The deletion makes what a node gives longer, or it leaves it as it is. So blocks that are joined
stay the same together only when each of them does. -/

namespace Check

/-- The diagnostics before and after the deletion, which are the same unless something hides. -/
structure Uncovers (hides : Prop) (ds ds' : List Diagnostic) : Prop where
  length_le : ds.length ≤ ds'.length
  eq_iff : ds' = ds ↔ ¬ hides

theorem Uncovers.append {hides others : Prop} {ds ds' es es' : List Diagnostic}
    (hd : Uncovers hides ds ds') (he : Uncovers others es es') :
    Uncovers (hides ∨ others) (ds ++ es) (ds' ++ es') where
  length_le := by
    have hd := hd.length_le
    have he := he.length_le
    rw [List.length_append, List.length_append]
    omega
  eq_iff := by
    rw [not_or, ← hd.eq_iff, ← he.eq_iff]
    constructor
    · intro h
      have hlengths := congrArg List.length h
      rw [List.length_append, List.length_append] at hlengths
      have hd := hd.length_le
      have he := he.length_le
      exact List.append_inj h (by omega)
    · rintro ⟨rfl, rfl⟩
      rfl

section

variable {n : Node} (hparameters : n.parameters.Distinct) (hcredentials : n.credentials.Distinct)

include hparameters hcredentials

theorem node_withoutNulls_of_not_hides (ctx : Context) (h : ¬ n.HidesCredentials) :
    node ctx n.withoutNulls = node ctx n := by
  refine node_eq_of_readsAlike (Node.readsAlike_withoutNulls hparameters hcredentials) ?_ ctx
  intro henabled hcategory
  exact Rules.requestCredentialFindings_withoutNulls hparameters fun hnulls =>
    h ⟨hnulls, henabled, hcategory⟩

theorem node_of_hides (ctx : Context) (h : n.HidesCredentials) :
    Outcome.Related (fun ds ds' => ds'.length = ds.length + 1) (node ctx n)
      (node ctx n.withoutNulls) := by
  have hfindings : ∀ m : Node, m.disabled = false → m.category = .tool .httpRequest →
      nodeFindings ctx m = Rules.httpRequestFindings m ctx.settings >>= Rules.worded := by
    intro m henabled hcategory
    rw [nodeFindings, henabled, if_neg Bool.false_ne_true, hcategory]
    rfl
  have hfound : Outcome.Related LacksCredentials (nodeFindings ctx n)
      (nodeFindings ctx n.withoutNulls) := by
    rw [hfindings n h.enabled h.category_eq, hfindings n.withoutNulls h.enabled h.category_eq]
    exact (Rules.httpRequestFindings_of_nulls hparameters hcredentials
      h.toHasNullCredentials _).bind
      fun _ _ hmore => hmore.worded
  rw [node_eq, node_eq]
  generalize nodeFindings ctx n = found at hfound ⊢
  generalize nodeFindings ctx n.withoutNulls = found' at hfound ⊢
  cases hfound with
  | error fault => exact .error fault
  | ok hmore =>
    refine .ok ?_
    rw [Node.diagnose, Node.diagnose, List.length_map, List.length_map]
    exact hmore.length_eq

/-- **One node.** -/
theorem node_withoutNulls (ctx : Context) :
    Outcome.Related (Uncovers n.HidesCredentials) (node ctx n) (node ctx n.withoutNulls) := by
  by_cases h : n.HidesCredentials
  · refine (node_of_hides hparameters hcredentials ctx h).mono fun ds ds' hlength => ⟨by omega, ?_⟩
    refine iff_of_false (fun hsame => ?_) (not_not.2 h)
    rw [hsame] at hlength
    omega
  · rw [node_withoutNulls_of_not_hides hparameters hcredentials ctx h]
    cases node ctx n with
    | error fault => exact .error fault
    | ok ds => exact .ok ⟨Nat.le_refl _, iff_of_true rfl h⟩

end

/-- **A run**, node by node. -/
theorem nodes_withoutNulls (ctx : Context) {ns : List Node}
    (h : ∀ n ∈ ns, n.parameters.Distinct ∧ n.credentials.Distinct) :
    Outcome.Related (Uncovers (∃ n ∈ ns, n.HidesCredentials)) (nodes ctx ns)
      (nodes ctx (ns.map Node.withoutNulls)) := by
  induction ns with
  | nil => exact .ok ⟨Nat.le_refl _, by simp⟩
  | cons first rest ih =>
    obtain ⟨⟨hparameters, hcredentials⟩, hrest⟩ := List.forall_mem_cons.1 h
    rw [List.map_cons, nodes, nodes]
    refine (node_withoutNulls hparameters hcredentials ctx).bind fun ds ds' hfirst => ?_
    refine (ih hrest).bind fun es es' hothers => .ok ?_
    have hall := hfirst.append hothers
    rwa [← List.exists_mem_cons_iff (fun n : Node => n.HidesCredentials)] at hall

end Check

/-! ## Graphs -/

namespace Graph

theorem seenAlike_withoutNulls {g : Graph} (h : g.BagsDistinct) : g.SeenAlike g.withoutNulls where
  connections_eq := rfl
  nodes_alike := by
    show List.Forall₂ Node.SeenAlike g.nodes (g.nodes.map Node.withoutNulls)
    refine List.forall₂_map_right_iff.2 (List.forall₂_same.2 fun n hn => ?_)
    exact (Node.readsAlike_withoutNulls (h n hn).1 (h n hn).2).seenAlike

end Graph

namespace Check

theorem graph_withoutNulls {g : Graph} (h : g.BagsDistinct) (settings : Settings) :
    Outcome.Related (Uncovers (∃ n ∈ g.nodes, n.HidesCredentials)) (graph g settings)
      (graph g.withoutNulls settings) := by
  have hsurroundings : ∀ n, node (.of g.withoutNulls settings) n = node (.of g settings) n :=
    node_eq_of_seenAlike (Graph.seenAlike_withoutNulls h) settings
  have hrun : graph g.withoutNulls settings
      = nodes (.of g settings) (g.nodes.map Node.withoutNulls) := by
    show nodes (.of g.withoutNulls settings) (g.nodes.map Node.withoutNulls) = _
    rw [nodes_eq_walk, nodes_eq_walk, funext hsurroundings]
  rw [hrun]
  exact nodes_withoutNulls (.of g settings) h

/-- **When null means absent.** Deleting all parameters and credentials that are null leaves the
outcome of a run as it is, unless the run returns and a request at work hides behind credentials
that are all null. -/
theorem nulls_invisible_iff (g : Graph) (h : g.BagsDistinct) (settings : Settings) :
    graph g.withoutNulls settings = graph g settings
      ↔ (∃ fault, graph g settings = .error fault) ∨ ∀ n ∈ g.nodes, ¬ n.HidesCredentials := by
  have hrun := graph_withoutNulls h settings
  generalize graph g settings = run at hrun ⊢
  generalize graph g.withoutNulls settings = run' at hrun ⊢
  cases hrun with
  | error fault => exact iff_of_true rfl (.inl ⟨fault, rfl⟩)
  | ok huncovers =>
    rw [Except.ok.injEq, huncovers.eq_iff]
    simp

/-- A request with one credential that is null, a search without any but null ones, and an agent
with null parameters that a chat with a null response mode streams to. -/
def nulledNodes : Graph where
  name := none
  nodes := [request, search, chat, agent]
  connections := [(.text "chat", .map [(.text "main", .list [.list [entry]])])]
  extra := []
where
  request : Node :=
    ⟨some "r", "fetch", "nodes-langchain.toolHttpRequest", .int 1,
      [(.text "url", .text "https://a.b"), (.text "body", .null),
        (.text "authentication", .text "predefinedCredentialType")],
      [(.text "httpBasicAuth", .null)], false, []⟩
  search : Node :=
    ⟨none, "search", "nodes-langchain.toolSerpApi", .int 1, [(.text "descriptionType", .null)],
      [(.text "serpApi", .null)], false, []⟩
  chat : Node :=
    ⟨none, "chat", NodeType.chatTriggerType, .int 1,
      [(.text "responseMode", .null),
        (.text "options", .map [(.text "responseMode", .text "streaming")])], [], false, []⟩
  agent : Node :=
    ⟨none, "agent", NodeType.agentType, .int 1,
      [(.text "systemMessage", .null), (.text "maxIterations", .null)], [], false, []⟩
  entry : Value := .map [(.text "node", .text "agent")]

/-- What is found in the nodes other than the request, before and after the deletion. -/
def nulledNodes.others : List Diagnostic :=
  [⟨.error (.missingCredentials .search), "SerpApi Tool", none, "search"⟩,
    ⟨.error .agentWithoutModel, "AI Agent", none, "agent"⟩,
    ⟨.info .missingSystemMessage, "AI Agent", none, "agent"⟩,
    ⟨.info .noToolsConnected, "AI Agent", none, "agent"⟩]

theorem nulledNodes.placeholders_url : Text.placeholders "https://a.b".toList = [] := by
  simp [Text.placeholders, Text.stripExpressions, Text.bracedNames]

theorem nulledNodes.node_request (ctx : Context) : node ctx request = .ok [] := by
  have hused : Rules.usedPlaceholders request = .ok [] := by
    show Except.ok (Text.placeholders "https://a.b".toList ++ [] ++ []) = _
    rw [placeholders_url]
    rfl
  have hfound : nodeFindings ctx request = .ok [] := by
    show Rules.httpRequestFindings request ctx.settings >>= Rules.worded = _
    rw [Rules.httpRequestFindings, hused]
    rfl
  rw [node_eq, hfound]
  rfl

theorem nulledNodes.node_request_withoutNulls (ctx : Context) :
    node ctx request.withoutNulls
      = .ok [⟨.error (.missingCredentials .request), "HTTP Request Tool", some "r", "fetch"⟩] := by
  have hused : Rules.usedPlaceholders request.withoutNulls = .ok [] := by
    show Except.ok (Text.placeholders "https://a.b".toList ++ [] ++ []) = _
    rw [placeholders_url]
    rfl
  have hfound : nodeFindings ctx request.withoutNulls
      = .ok [.error (.missingCredentials .request)] := by
    show Rules.httpRequestFindings request.withoutNulls ctx.settings >>= Rules.worded = _
    rw [Rules.httpRequestFindings, hused]
    rfl
  rw [node_eq, hfound]
  rfl

theorem nulledNodes.graph_eq : graph nulledNodes {} = .ok others := by
  show nodes (.of nulledNodes {}) (request :: _) = _
  rw [nodes, node_request]
  rfl

/-- The request gets away with its null credential until that is deleted. -/
theorem graph_nulledNodes_uncovered :
    graph nulledNodes {} = .ok nulledNodes.others
    ∧ graph nulledNodes.withoutNulls {}
      = .ok (⟨.error (.missingCredentials .request), "HTTP Request Tool", some "r", "fetch"⟩
          :: nulledNodes.others) := by
  refine ⟨nulledNodes.graph_eq, ?_⟩
  show nodes (.of nulledNodes.withoutNulls {}) (nulledNodes.request.withoutNulls :: _) = _
  rw [nodes, nulledNodes.node_request_withoutNulls]
  rfl

/-- The same workflow with the request out of work. -/
def nulledNodes.resting : Graph :=
  nulledNodes.edited 0 { request with disabled := true }

/-- The deletion is seen as long as the request is at work. -/
theorem nulls_invisible_nulledNodes :
    nulledNodes.BagsDistinct ∧ graph nulledNodes.withoutNulls {} ≠ graph nulledNodes {}
    ∧ nulledNodes.resting.BagsDistinct ∧ graph nulledNodes.resting {} = .ok nulledNodes.others
    ∧ graph nulledNodes.resting.withoutNulls {} = graph nulledNodes.resting {} := by
  have hdistinct : nulledNodes.BagsDistinct := by
    unfold Graph.BagsDistinct
    decide
  have hresting : nulledNodes.resting.BagsDistinct := by
    unfold Graph.BagsDistinct
    decide
  refine ⟨hdistinct, fun hsame => ?_, hresting, rfl, ?_⟩
  · rcases (nulls_invisible_iff nulledNodes hdistinct {}).1 hsame with ⟨fault, hfault⟩ | hnone
    · exact nomatch hfault.symm.trans nulledNodes.graph_eq
    · have hnulls : ∀ member ∈ nulledNodes.request.credentials, member.2 = .null :=
        List.forall_mem_singleton.2 rfl
      have hgiven : nulledNodes.request.credentials ≠ [] := List.cons_ne_nil _ _
      exact hnone nulledNodes.request (.head _) ⟨⟨rfl, hgiven, hnulls⟩, rfl, rfl⟩
  · have hother : ∀ n ∈ nulledNodes.resting.nodes,
        n.disabled = true ∨ n.category ≠ .tool .httpRequest := by decide
    refine (nulls_invisible_iff nulledNodes.resting hresting {}).2 (.inr fun n hn hhides => ?_)
    rcases hother n hn with hdisabled | hcategory
    · exact Bool.false_ne_true (hhides.enabled.symm.trans hdisabled)
    · exact hcategory hhides.category_eq

end Check

end FlowLint
