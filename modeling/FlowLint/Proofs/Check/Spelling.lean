import FlowLint.Plan
import FlowLint.Proofs.Check.Correspondence
import FlowLint.Report

/-!
# Spellings of node types

A workflow writes the packages of the platform in one of several spellings, depending on its age.
The spelling is undone wherever a type is looked at, and it is not stored. Were it forgotten in one
place, old workflows alone would be judged differently there. Here all types of a graph are
respelled at once (`Graph.respelled`), and nothing that is asked of the graph has another answer.

* **`NodeType.normalize_normalize`**: the standard spelling is respelled as itself, for every text:
  no long spelling begins as a standard one does.
* **`Graph.respelled_mirrors`**, **`Graph.plan_respelled`**: what the checks and the plan see.
* **`Check.spelling_invisible`**: gate, plan and diagnostics stay. One message shows a type, and it
  shows the standard spelling then.
-/

namespace FlowLint

/-! ## Types -/

namespace NodeType

/-- The type with one spelling in place of another, if it begins with that. -/
def respell? (spelling : String × String) (type : String) : Option String :=
  (spelling.1.toList.isPrefixOf? type.toList).map fun name =>
    String.ofList (spelling.2.toList ++ name)

theorem normalize_eq (type : String) :
    normalize type = (spellings.findSome? fun spelling => respell? spelling type).getD type :=
  rfl

/-- A type is respelled when it begins with a long spelling, and left as it is otherwise. -/
theorem normalize_cases (type : String) :
    (∃ spelling ∈ spellings, ∃ name : List Char, type.toList = spelling.1.toList ++ name
      ∧ normalize type = String.ofList (spelling.2.toList ++ name))
    ∨ normalize type = type := by
  rw [normalize_eq]
  cases hfound : spellings.findSome? fun spelling => respell? spelling type with
  | none => exact .inr rfl
  | some respelled =>
    obtain ⟨spelling, hmem, hspelling⟩ := List.exists_of_findSome?_eq_some hfound
    obtain ⟨name, hname, rfl⟩ := Option.map_eq_some_iff.1 hspelling
    exact .inl ⟨spelling, hmem, name, (List.isPrefixOf?_eq_some_iff_append_eq.1 hname).symm, rfl⟩

/-- No long spelling begins with the first two characters of a standard one. -/
theorem respell?_standard {spelling other : String × String} (hspelling : spelling ∈ spellings)
    (hother : other ∈ spellings) (name : List Char) :
    respell? other (String.ofList (spelling.2.toList ++ name)) = none := by
  have hdiffer : ∀ spelling ∈ spellings, ∀ other ∈ spellings,
      2 ≤ spelling.2.toList.length ∧ 2 ≤ other.1.toList.length
      ∧ other.1.toList.take 2 ≠ spelling.2.toList.take 2 := by decide
  obtain ⟨hshort, hlong, hne⟩ := hdiffer spelling hspelling other hother
  rw [respell?, String.toList_ofList, Option.map_eq_none_iff]
  cases hrest : other.1.toList.isPrefixOf? (spelling.2.toList ++ name) with
  | none => rfl
  | some rest =>
    have htake := congrArg (List.take 2) (List.isPrefixOf?_eq_some_iff_append_eq.1 hrest)
    rw [List.take_append_of_le_length hlong, List.take_append_of_le_length hshort] at htake
    exact absurd htake hne

/-- **The standard spelling is respelled as itself.** -/
@[simp] theorem normalize_normalize (type : String) :
    normalize (normalize type) = normalize type := by
  rcases normalize_cases type with ⟨spelling, hspelling, name, -, hnormal⟩ | hsame
  · have hnone : (spellings.findSome? fun other => respell? other (normalize type)) = none := by
      rw [hnormal, List.findSome?_eq_none_iff]
      exact fun other hother => respell?_standard hspelling hother name
    rw [normalize_eq, hnone, Option.getD_none]
  · rw [hsame, hsame]

-- one long spelling is taken off, and the one behind it is part of the name
example : normalize "n8n-nodes-base.n8n-nodes-base.x" = "nodes-base.n8n-nodes-base.x" := by decide

@[simp] theorem classify_normalize (type : String) : classify (normalize type) = classify type := by
  rw [classify, classify, normalize_normalize]

theorem package_normalize (type : String) : package (normalize type) = package type := by
  rw [package, package, normalize_normalize]

theorem shortName_normalize (type : String) : shortName (normalize type) = shortName type := by
  rw [shortName, shortName, normalize_normalize]

end NodeType

/-! ## Graphs -/

/-- The node with its type in the standard spelling. -/
def Node.respelled (node : Node) : Node :=
  { node with type := NodeType.normalize node.type }

/-- The graph with all types in the standard spelling. -/
def Graph.respelled (g : Graph) : Graph :=
  { g with nodes := g.nodes.map Node.respelled }

@[simp] theorem Node.category_respelled (node : Node) : node.respelled.category = node.category :=
  NodeType.classify_normalize node.type

theorem replaces_respelled (node : Node) :
    node.Replaces id NodeType.normalize node.respelled where
  name_eq := rfl
  type_eq := rfl
  category_eq := node.category_respelled
  source_eq := by
    rw [Rules.isStreamingSource, Node.isChatTrigger, Node.category_respelled]
    rfl

namespace Graph

theorem respelled_mirrors (g : Graph) : g.Mirrors id NodeType.normalize g.respelled where
  named_rel := node?_rel Function.injective_id (fun _ _ hnodes => hnodes.name_eq)
    (Outcome.forall₂_map replaces_respelled g.nodes)
  sources_perm _ _ := .refl _
  targets_perm _ := .refl _

theorem isChecked_respelled (g : Graph) : g.respelled.isChecked = g.isChecked := by
  rw [isChecked, isChecked, respelled, List.any_map, Function.comp_def]
  simp only [Node.category_respelled]

/-! ### The plan -/

theorem names_respelled (g : Graph) : g.respelled.nodes.map (·.name) = g.nodes.map (·.name) := by
  rw [respelled, List.map_map]
  rfl

theorem lastPosition_respelled (g : Graph) (name : String) :
    g.respelled.lastPosition name = g.lastPosition name := by
  rw [lastPosition, lastPosition, respelled, List.length_map, ← List.map_reverse, List.findIdx_map]
  rfl

theorem lastNode?_respelled (g : Graph) (name : String) :
    g.respelled.lastNode? name = (g.lastNode? name).map Node.respelled := by
  rw [lastNode?, lastNode?, respelled, ← List.map_reverse, List.find?_map]
  rfl

theorem order_respelled (g : Graph) (index : ReverseIndex) :
    Plan.order g.respelled index = Plan.order g index := by
  have hnames : g.respelled.names = g.names := by rw [names, names, names_respelled]
  unfold Plan.order Plan.edges
  rw [hnames, funext g.lastPosition_respelled, names_respelled]

theorem block_respelled (g : Graph) (index : ReverseIndex) (number : Nat) (name : String) :
    Plan.block g.respelled index number name = Plan.block g index number name := by
  unfold Plan.block
  rw [lastNode?_respelled]
  cases g.lastNode? name with
  | none => rfl
  | some node =>
    have hcategory : NodeType.classify node.respelled.type = NodeType.classify node.type :=
      node.category_respelled
    simp only [Option.map_some, hcategory]
    rfl

theorem plan_respelled (g : Graph) : g.respelled.plan = g.plan := by
  have hlines : Plan.lines g.respelled = Plan.lines g := by
    unfold Plan.lines
    simp only [order_respelled, block_respelled]
    rfl
  rw [plan, plan, hlines]

end Graph

/-! ## Diagnostics -/

/-- A diagnostic and the one in its place when all types are respelled. They say the same, unless a
type is shown. -/
structure Diagnostic.Respelled (d d' : Diagnostic) : Prop where
  severity_eq : d'.severity = d.severity
  code_eq : d'.code = d.code
  nodeId_eq : d'.nodeId = d.nodeId
  nodeName_eq : d'.nodeName = d.nodeName
  message_eq : d.code ≠ .streamingWrongTarget → d'.message = d.message
  shown_eq : ∀ target type, d.finding.issue = .streamingWrongTarget target type →
    d' = { d with finding.issue := .streamingWrongTarget target (NodeType.normalize type) }

theorem Diagnostic.respelled_retarget (d : Diagnostic) :
    d.Respelled (d.retarget id NodeType.normalize) where
  severity_eq := d.severity_retarget id NodeType.normalize
  code_eq := d.code_retarget id NodeType.normalize
  nodeId_eq := rfl
  nodeName_eq := rfl
  message_eq := by
    intro hcode
    have hissue : d.finding.issue.retarget id NodeType.normalize = d.finding.issue := by
      cases hd : d.finding.issue with
      | streamingWrongTarget target type => exact absurd (congrArg Issue.code hd) hcode
      | _ => rfl
    rw [message, message, retarget, Finding.retarget, hissue]
    rfl
  shown_eq := by
    intro target type hissue
    rw [retarget, Finding.retarget, hissue]
    rfl

namespace Check

/-- **The spelling of types makes no difference.** When all types of a graph are respelled, the gate
decides the same, the plan is the same, and a run ends in the same way, with the same diagnostics
place by place, but for the type that a message shows. Respelling twice is respelling once, and
every question about a type has the same answer after it. -/
theorem spelling_invisible (g : Graph) (settings : Settings) :
    g.respelled.isChecked = g.isChecked
    ∧ g.respelled.plan = g.plan
    ∧ Outcome.Related (List.Forall₂ Diagnostic.Respelled) (graph g settings)
        (graph g.respelled settings)
    ∧ ∀ type, NodeType.normalize (NodeType.normalize type) = NodeType.normalize type
      ∧ NodeType.classify (NodeType.normalize type) = NodeType.classify type
      ∧ NodeType.package (NodeType.normalize type) = NodeType.package type
      ∧ NodeType.shortName (NodeType.normalize type) = NodeType.shortName type := by
  refine ⟨g.isChecked_respelled, g.plan_respelled, ?_, fun type =>
    ⟨NodeType.normalize_normalize type, NodeType.classify_normalize type,
      NodeType.package_normalize type, NodeType.shortName_normalize type⟩⟩
  have hmatches : ∀ n : Node,
      Matches id NodeType.normalize (.of g settings) (.of g.respelled settings) n n.respelled :=
    fun n => g.respelled_mirrors.matches_of_replaces settings (replaces_respelled n)
      ⟨rfl, rfl, rfl, rfl⟩ fun _ => rfl
  have hrun : graph g.respelled settings
      = (graph g settings).map (List.map (.retarget id NodeType.normalize)) :=
    nodes_eq_of_matches (Outcome.forall₂_map hmatches g.nodes)
  rw [hrun]
  exact Outcome.related_map (Outcome.forall₂_map Diagnostic.respelled_retarget) _

end Check

end FlowLint
