import FlowLint.Proofs.Graph.Refusal

/-!
# What a document is read as

The parts of a node and of a workflow, each told by what the document states for it: a field that is
a text or a number is read as its text, and a part of an unexpected kind is brought to an empty
value, whatever the kind. All that has no meaning stays as it is, in its order.

* **`Node.readFrom_ofMembers`**: each entry is read as the node that it states.
* **`Graph.ofValue_reads`**: a document is refused for the first condition that it does not meet,
  and else it is read as the workflow that it states.

The keys of parameters and credentials are one step away from what the document holds: octets that
are a text in UTF-8 stand for that text (`Graph.ofValue_octetKey`).
-/

namespace FlowLint

/-- The text of a field: a stated text, or that of a stated number. All else, truth values among it,
states none. -/
inductive StatesText : Option Value → Option String → Prop
  | text (s : String) : StatesText (some (.text s)) (some s)
  | int (n : Int) : StatesText (some (.int n)) (some (integerText n))
  | float (x : Binary64) : StatesText (some (.float x)) (some x.text)
  | absent : StatesText none none
  | other {value : Value} (notText : ∀ s, value ≠ .text s) (notInt : ∀ n, value ≠ .int n)
      (notFloat : ∀ x, value ≠ .float x) : StatesText (some value) none

/-- The mapping of a bag: a stated mapping of texts as it is, and nothing for all that is no
mapping. Where keys are octets, the members are set one after the other under the texts of their
keys. -/
inductive StatesBag : Option Value → Members → Prop
  | absent : StatesBag none []
  | other {value : Value} (notMapping : value.members? = none) : StatesBag (some value) []
  | given {value : Value} {members : Members} (mapping : value.members? = some members)
      (texts : ∀ key ∈ value.keys, key.IsText) : StatesBag (some value) members
  | octets {value : Value} {members pairs : Members} (mapping : value.members? = some members)
      (someOctets : ∃ key ∈ value.keys, ¬ key.IsText)
      (reads : List.Forall₂ (fun member pair =>
        ∃ name, member.1.ReadsAs name ∧ pair = (.text name, member.2)) members pairs) :
      StatesBag (some value) (.ofPairs pairs)

/-- The mapping of a connection table. -/
inductive StatesTable : Option Value → Members → Prop
  | absent : StatesTable none []
  | null : StatesTable (some .null) []
  | given {value : Value} {members : Members} (mapping : value.members? = some members) :
      StatesTable (some value) members

/-- The members that are not under known texts, unchanged and in order. -/
structure Members.IsRest (rest members : Members) (known : List String) : Prop where
  sublist : rest.Sublist members
  mem_iff : ∀ member, member ∈ rest ↔ member ∈ members ∧ ∀ name ∈ known, member.1 ≠ .text name

/-- The node is what an entry of the node list states. -/
structure Node.ReadFrom (node : Node) (entry : Value) : Prop where
  id : StatesText (entry.get? "id") node.id
  name : ∃ text, StatesText (entry.get? "name") text ∧ node.name = text.getD ""
  type : ∃ text, StatesText (entry.get? "type") text ∧ node.type = text.getD ""
  typeVersion : node.typeVersion = (entry.get? "typeVersion").getD .null
  parameters : StatesBag (entry.get? "parameters") node.parameters
  credentials : StatesBag (entry.get? "credentials") node.credentials
  disabled : node.disabled = true ↔ entry.get? "disabled" = some (.bool true)
  extra : ∃ members, entry.members? = some members
    ∧ node.extra.IsRest members
      ["id", "name", "type", "typeVersion", "parameters", "credentials", "disabled"]

/-- The entry has a key that is no text, or one of its bags has a key that reads as none. -/
def Value.HasOddKey (entry : Value) : Prop :=
  (∃ key ∈ entry.keys, ¬ key.IsText)
    ∨ ∃ (bag : NodeBag) (value : Value), entry.get? bag.name = some value
        ∧ ∃ key ∈ value.keys, ¬ key.ReadsAsText

/-- The workflow is what a document states: a node for each entry, in their order. -/
structure Graph.ReadFrom (g : Graph) (document : Value) : Prop where
  name : ∀ s, g.name = some s ↔ document.get? "name" = some (.text s)
  nodes : List.Forall₂ Node.ReadFrom g.nodes document.nodeList
  connections : StatesTable (document.get? "connections") g.connections
  extra : ∃ members, document.members? = some members
    ∧ g.extra.IsRest members ["name", "nodes", "connections"]

/-- What comes of reading a document as a workflow. -/
structure Graph.Reads (document : Value) : Prop where
  /-- It is refused exactly when it does not meet a condition. -/
  refused_iff : (∃ fault, ofValue document = .error fault)
    ↔ ∃ condition : GraphCondition, condition.Fails document
  /-- The fault is about the first condition that is not met. -/
  first : ∀ fault, ofValue document = .error fault →
    fault.condition.Fails document
      ∧ (∀ condition : GraphCondition, condition.Fails document →
        fault.condition.rank ≤ condition.rank)
      ∧ fault.Tells document
  read : ∀ g, ofValue document = .ok g → g.ReadFrom document
  /-- Where all integers can be written, the last condition is about keys only. -/
  onlyKeys : document.isWritable = true →
    (GraphCondition.noIssues.Fails document
      ↔ (∃ key ∈ document.keys, ¬ key.IsText) ∨ ∃ entry ∈ document.nodeList, entry.HasOddKey)

/-! ## Parts -/

namespace Members

theorem isRest_without (members : Members) (known : List String) :
    (members.without known).IsRest members known where
  sublist := List.filter_sublist
  mem_iff member := by
    rw [without, List.mem_filter]
    refine and_congr_right fun _ => ?_
    obtain ⟨key, value⟩ := member
    cases key with
    | text name =>
      simp only [Bool.not_eq_true', List.contains_eq_mem, decide_eq_false_iff_not, ne_eq,
        Scalar.text.injEq]
      exact ⟨fun hno other hother hsame => hno (hsame ▸ hother), fun hno hmem => hno name hmem rfl⟩
    | _ => simp

end Members

namespace Node

theorem statesText_scalarText? (stated : Option Value) :
    StatesText stated (scalarText? stated) := by
  cases stated with
  | none => exact .absent
  | some value =>
    cases value with
    | scalar s =>
      cases s with
      | text s => exact .text s
      | int n => exact .int n
      | float x => exact .float x
      | _ => exact .other (by simp) (by simp) (by simp)
    | _ => exact .other (by simp) (by simp) (by simp)

theorem isText_of_readsAsText {key : Scalar} (hreads : key.ReadsAsText)
    (h : isOctets key = false) : key.IsText := by
  obtain ⟨name, hname⟩ := hreads
  cases hname with
  | text => exact ⟨_, rfl⟩
  | octets => exact nomatch h

theorem not_isText_of_isOctets {key : Scalar} (h : isOctets key = true) : ¬ key.IsText := by
  rintro ⟨name, rfl⟩
  exact nomatch h

theorem forall₂_readKeys {members : Members}
    (h : ∀ key ∈ members.map (·.1), key.ReadsAsText) :
    List.Forall₂ (fun member pair => ∃ name, member.1.ReadsAs name ∧ pair = (.text name, member.2))
      members (readKeys members) := by
  rw [readKeys, List.forall₂_map_right_iff, List.forall₂_same]
  intro member hmem
  have hreads : member.1.ReadsAsText := h member.1 (List.mem_map_of_mem hmem)
  rcases bagKey_cases member.1 with ⟨name, hname, hkey⟩ | ⟨hnot, -⟩
  · exact ⟨name, hname, by rw [hkey]⟩
  · exact absurd hreads hnot

/-- A bag whose keys all read as texts is what is stated. -/
theorem statesBag_bag {stated : Option Value}
    (h : ∀ value, stated = some value → ∀ key ∈ value.keys, key.ReadsAsText) :
    StatesBag stated (bag stated) := by
  cases stated with
  | none => exact .absent
  | some value =>
    cases hmembers : value.members? with
    | none =>
      rw [bag, Option.bind_some, hmembers]
      exact .other hmembers
    | some members =>
      have hreads := h value rfl
      rcases bag_cases hmembers with ⟨hkeys, hbag⟩ | ⟨⟨member, hmem, hoctets⟩, hbag⟩
      · rw [hbag]
        refine .given hmembers fun key hkey => isText_of_readsAsText (hreads key hkey) ?_
        rw [Value.keys_eq hmembers] at hkey
        obtain ⟨member, hmem, rfl⟩ := List.mem_map.1 hkey
        exact hkeys member hmem
      -- some keys are octets, and the members are set anew under what they read as
      · rw [hbag]
        have hkeys := Value.keys_eq hmembers
        refine .octets hmembers ⟨member.1, ?_, not_isText_of_isOctets hoctets⟩
          (forall₂_readKeys (hkeys ▸ hreads))
        rw [hkeys]
        exact List.mem_map_of_mem hmem

/-- **Each entry is read as the node that it states.** -/
theorem readFrom_ofMembers {entry : Value} {members : Members}
    (hmembers : entry.members? = some members)
    (hkeys : ∀ (b : NodeBag) (value : Value), entry.get? b.name = some value →
      ∀ key ∈ value.keys, key.ReadsAsText) :
    (ofMembers members).ReadFrom entry := by
  have hget := Value.get?_eq hmembers
  have htext : ∀ field, StatesText (entry.get? field) (scalarText? (members.get? field)) := by
    intro field
    rw [hget]
    exact statesText_scalarText? _
  have hbag : ∀ b : NodeBag, StatesBag (entry.get? b.name) (bag (members.get? b.name)) := by
    intro b
    rw [← hget]
    exact statesBag_bag (hkeys b)
  exact
    { id := htext "id"
      name := ⟨_, htext "name", rfl⟩
      type := ⟨_, htext "type", rfl⟩
      typeVersion := by rw [hget, ofMembers]
      parameters := hbag .parameters
      credentials := hbag .credentials
      disabled := by rw [hget, ofMembers, Param.isTrue_iff]
      extra := ⟨members, hmembers, Members.isRest_without members knownMembers⟩ }

end Node

namespace Graph

variable {document : Value}

theorem statesTable_of_table {stated : Option Value} {connections : Members}
    (h : table stated = .ok connections) : StatesTable stated connections := by
  unfold table at h
  split at h
  · cases h
    exact .absent
  · cases h
    exact .null
  · split at h
    · next members hmembers =>
      cases h
      exact .given hmembers
    · exact nomatch h

/-- **A document is read as the workflow that it states.** -/
theorem readFrom_of_ofValue (hkeyed : document.Keyed) {g : Graph} (h : ofValue document = .ok g) :
    g.ReadFrom document := by
  have hmet := not_fails_of_ofValue hkeyed h .noIssues
  obtain ⟨workflow, stated, nodes, connections, hworkflow, hstated, htable, hnodes, -, rfl⟩ :=
    ofValue_eq_ok_iff.1 h
  have hget := Value.get?_eq hworkflow
  rw [← hget] at hstated htable
  rw [← Value.nodeList_eq hstated] at hnodes
  -- the keys of the bags are at no issue, so each reads as a text
  have hkeys : ∀ entry ∈ document.nodeList, ∀ (b : NodeBag) (value : Value),
      entry.get? b.name = some value → ∀ key ∈ value.keys, key.ReadsAsText := by
    intro entry hentry b value hvalue key hkey
    obtain ⟨position, hlisted⟩ := List.getElem?_of_mem hentry
    by_contra hunread
    exact hmet ⟨_, .node hlisted (.bagKey hvalue hkey hunread)⟩
  have hnodes := (entries_eq_ok_iff.1 hnodes).flip
  rw [List.forall₂_iff_zip] at hnodes
  have hread : List.Forall₂ Node.ReadFrom (nodes.map Node.ofMembers) document.nodeList := by
    rw [List.forall₂_map_left_iff, List.forall₂_iff_zip]
    refine ⟨hnodes.1, fun hpair => ?_⟩
    exact Node.readFrom_ofMembers (hnodes.2 hpair) (hkeys _ (List.of_mem_zip hpair).2)
  exact
    { name := fun s => by
        rw [hget]
        exact Param.text?_eq_some_iff
      nodes := hread
      connections := statesTable_of_table htable
      extra := ⟨workflow, hworkflow, Members.isRest_without workflow knownMembers⟩ }

theorem isWritable_of_mem_nodeList (h : document.isWritable = true) :
    ∀ entry ∈ document.nodeList, entry.isWritable = true := by
  intro entry hentry
  obtain ⟨list, items, hlist, hitems, hmem⟩ := Value.exists_of_mem_nodeList hentry
  have hwritable : list.isWritable = true := Value.isWritable_get? h hlist
  exact Value.isWritable_items? hwritable hitems entry hmem

/-- Where all integers can be written, an issue of an entry is one of its keys. -/
theorem exists_ofNode_iff {position : Nat} {entry : Value} (h : entry.isWritable = true) :
    (∃ issue : GraphIssue, issue.OfNode position entry) ↔ entry.HasOddKey := by
  constructor
  · rintro ⟨issue, hissue⟩
    cases hissue with
    | longNumeral stated long =>
      have hvalue := Value.isWritable_get? h stated
      rw [Value.isWritable, Scalar.isWritable, long] at hvalue
      exact Bool.noConfusion hvalue
    | bagKey stated mem unread => exact .inr ⟨_, _, stated, _, mem, unread⟩
    | nodeKey mem notText => exact .inl ⟨_, mem, notText⟩
  · rintro (⟨key, hmem, hnot⟩ | ⟨b, value, hstated, key, hmem, hunread⟩)
    · exact ⟨_, .nodeKey hmem hnot⟩
    · exact ⟨_, .bagKey hstated hmem hunread⟩

theorem fails_noIssues_iff_of_isWritable (h : document.isWritable = true) :
    GraphCondition.noIssues.Fails document
      ↔ (∃ key ∈ document.keys, ¬ key.IsText) ∨ ∃ entry ∈ document.nodeList, entry.HasOddKey := by
  constructor
  · rintro ⟨issue, hissue⟩
    cases hissue with
    | node listed of =>
      have hentry := List.mem_of_getElem? listed
      exact .inr ⟨_, hentry, (exists_ofNode_iff (isWritable_of_mem_nodeList h _ hentry)).1 ⟨_, of⟩⟩
    | workflowKey mem notText => exact .inl ⟨_, mem, notText⟩
  · rintro (⟨key, hmem, hnot⟩ | ⟨entry, hentry, hodd⟩)
    · exact ⟨_, .workflowKey hmem hnot⟩
    · obtain ⟨position, hlisted⟩ := List.getElem?_of_mem hentry
      obtain ⟨issue, hissue⟩ := (exists_ofNode_iff (isWritable_of_mem_nodeList h _ hentry)).2 hodd
      exact ⟨issue, .node hlisted hissue⟩

/-- **What comes of reading a document.** The documents of files are keyed, in both formats. -/
theorem ofValue_reads (hkeyed : document.Keyed) : Graph.Reads document where
  refused_iff := by
    constructor
    · rintro ⟨fault, h⟩
      exact ⟨fault.condition, (fails_of_ofValue hkeyed h).1⟩
    · rintro ⟨condition, hfails⟩
      rcases Outcome.ok_or_error (ofValue document) with ⟨g, h⟩ | hfault
      · exact absurd hfails (not_fails_of_ofValue hkeyed h condition)
      · exact hfault
  first _ h := fails_of_ofValue hkeyed h
  read _ h := readFrom_of_ofValue hkeyed h
  onlyKeys h := fails_noIssues_iff_of_isWritable h

/-- The document of the YAML text `nodes: [{parameters: {!!binary aWQ= : 1}}]`. -/
def octetKeyDocument : Value :=
  .map [(.text "nodes",
    .list [.map [(.text "parameters", .map [(.octets [105, 100], .int 1)])]])]

theorem octetKeyDocument_keyed : octetKeyDocument.Keyed := by
  have hparameters : Value.Keyed (.map [(.octets [105, 100], .int 1)]) :=
    .map (by decide) (by simpa using .scalar _)
  have hnode : Value.Keyed (.map [(.text "parameters", .map [(.octets [105, 100], .int 1)])]) :=
    .map (by decide) (by simpa using hparameters)
  have hnodes : Value.Keyed
      (.list [.map [(.text "parameters", .map [(.octets [105, 100], .int 1)])]]) :=
    .list (by simpa using hnode)
  exact .map (by decide) (by simpa using hnodes)

/-- A key of a node's parameters that is no text does not keep a document from being a workflow when
it is octets in UTF-8: it stands for their text. -/
theorem ofValue_octetKey :
    (∃ entry ∈ octetKeyDocument.nodeList, ∃ value, entry.get? "parameters" = some value
      ∧ value.members?.isSome ∧ ∃ key ∈ value.keys, ¬ key.IsText)
      ∧ ∃ g n, ofValue octetKeyDocument = .ok g ∧ g.nodes = [n]
        ∧ n.parameters = [(.text "id", .int 1)] := by
  refine ⟨⟨_, List.mem_cons_self, _, rfl, rfl, .octets [105, 100], List.mem_cons_self, ?_⟩,
    _, _, rfl, rfl, rfl⟩
  rintro ⟨name, hname⟩
  exact nomatch hname

theorem ofValue_reads_octetKey :
    octetKeyDocument.Keyed ∧ ∃ g, ofValue octetKeyDocument = .ok g ∧ g.ReadFrom octetKeyDocument :=
  ⟨octetKeyDocument_keyed, _, rfl, (ofValue_reads octetKeyDocument_keyed).read _ rfl⟩

end Graph

end FlowLint
