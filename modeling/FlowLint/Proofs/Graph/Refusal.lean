import FlowLint.Proofs.Graph.FromDocument
import FlowLint.Proofs.Value.Writable

/-!
# Documents that are no workflows

A workflow is to be a mapping, with a list of nodes, a connection table, mappings for nodes, and no
issues in them. What it takes for a document not to meet one of these conditions is said of the
document alone (`GraphCondition.Fails`). The reader looks at the conditions one after the other, so
the fault that it tells is about the first condition that is not met.

The last condition gathers the issues of a document of the right shape, each with its place
(`GraphIssue.Of`): keys that are no texts, and numbers without a text where one is expected.

* **`Node.mem_keysNotText_bag_iff`**: a key of parameters or credentials may also be octets that are
  a text in UTF-8.
* **`Graph.mem_issues_iff`**: the reader finds the issues of a document and no others.
* **`Graph.fails_of_ofValue`**, **`Graph.not_fails_of_ofValue`**: the fault is about the first
  condition that is not met, and a workflow meets all.
-/

namespace FlowLint

/-! ## What is wrong with a document -/

/-- The key is a text. -/
def Scalar.IsText (key : Scalar) : Prop :=
  ∃ name, key = .text name

/-- The text that a key is, or that its octets are in UTF-8. -/
inductive Scalar.ReadsAs : Scalar → String → Prop
  | text (name : String) : ReadsAs (.text name) name
  | octets {bytes : List UInt8} {cs : List Char} (decoded : Utf8.decode bytes = .ok cs) :
      ReadsAs (.octets bytes) (String.ofList cs)

/-- The key is a text, or octets that are one in UTF-8. -/
def Scalar.ReadsAsText (key : Scalar) : Prop :=
  ∃ name, key.ReadsAs name

namespace Value

/-- What a value holds under a text. A value that is no mapping holds nothing. -/
def get? (value : Value) (name : String) : Option Value :=
  (value.members?.getD []).get? name

def keys (value : Value) : List Scalar :=
  (value.members?.getD []).map (·.1)

/-- What stands in the node list of a document. -/
def nodeList (document : Value) : List Value :=
  ((document.get? "nodes").bind items?).getD []

section

variable {value : Value} {members : Members} (h : value.members? = some members)
include h

theorem get?_eq (name : String) : value.get? name = members.get? name := by
  rw [get?, h, Option.getD_some]

theorem keys_eq : value.keys = members.map (·.1) := by
  rw [keys, h, Option.getD_some]

end

theorem nodeList_eq {document : Value} {items : List Value}
    (h : (document.get? "nodes").bind items? = some items) : document.nodeList = items := by
  rw [nodeList, h, Option.getD_some]

theorem keyed_of_get? {value held : Value} (h : value.Keyed) {name : String}
    (hget : value.get? name = some held) : held.Keyed := by
  cases hmembers : value.members? with
  | none =>
    rw [get?, hmembers] at hget
    exact nomatch hget
  | some members =>
    rw [get?_eq hmembers] at hget
    exact (h.members? hmembers).get? hget

/-- An entry of the node list is an item of the list that stands under its text. -/
theorem exists_of_mem_nodeList {document entry : Value} (h : entry ∈ document.nodeList) :
    ∃ list items, document.get? "nodes" = some list ∧ list.items? = some items ∧ entry ∈ items := by
  cases hitems : (document.get? "nodes").bind items? with
  | none =>
    rw [nodeList, hitems] at h
    exact absurd h List.not_mem_nil
  | some items =>
    obtain ⟨list, hlist, hlistItems⟩ := Option.bind_eq_some_iff.1 hitems
    rw [nodeList_eq hitems] at h
    exact ⟨list, items, hlist, hlistItems, h⟩

theorem keyed_of_mem_nodeList {document : Value} (h : document.Keyed) :
    ∀ entry ∈ document.nodeList, entry.Keyed := by
  intro entry hentry
  obtain ⟨list, items, hlist, hitems, hmem⟩ := exists_of_mem_nodeList hentry
  have hkeyed : list.Keyed := keyed_of_get? h hlist
  exact hkeyed.items? hitems entry hmem

end Value

/-- The issue is one of a node entry. -/
inductive GraphIssue.OfNode (position : Nat) (entry : Value) : GraphIssue → Prop
  | longNumeral {field : TextField} {n : Int}
      (stated : entry.get? field.memberName = some (.int n)) (long : isWritable n = false) :
      OfNode position entry (.longNumeral position field)
  | bagKey {bag : NodeBag} {value : Value} {key : Scalar}
      (stated : entry.get? bag.name = some value) (mem : key ∈ value.keys)
      (unread : ¬ key.ReadsAsText) : OfNode position entry (.bagKey position bag key)
  | nodeKey {key : Scalar} (mem : key ∈ entry.keys) (notText : ¬ key.IsText) :
      OfNode position entry (.nodeKey position key)

/-- The issue is one of the document. -/
inductive GraphIssue.Of (document : Value) : GraphIssue → Prop
  | node {position : Nat} {entry : Value} {issue : GraphIssue}
      (listed : document.nodeList[position]? = some entry) (of : issue.OfNode position entry) :
      Of document issue
  | workflowKey {key : Scalar} (mem : key ∈ document.keys) (notText : ¬ key.IsText) :
      Of document (.workflowKey key)

/-- What a document is to be, in the order in which it is looked at. -/
inductive GraphCondition where
  | mapping
  | nodeList
  | table
  | nodeMappings
  | noIssues
deriving DecidableEq, Repr

namespace GraphCondition

/-- The place of a condition in the order. -/
def rank : GraphCondition → Nat
  | .mapping => 0
  | .nodeList => 1
  | .table => 2
  | .nodeMappings => 3
  | .noIssues => 4

/-- The document does not meet the condition. -/
def Fails (document : Value) : GraphCondition → Prop
  | .mapping => document.members? = none
  | .nodeList => (document.get? "nodes").bind Value.items? = none
  | .table =>
    ∃ value, document.get? "connections" = some value ∧ value ≠ .null ∧ value.members? = none
  | .nodeMappings => ∃ entry ∈ document.nodeList, entry.members? = none
  | .noIssues => ∃ issue : GraphIssue, issue.Of document

/-- The document meets the conditions before a place in the order. -/
def MetBelow (document : Value) (bound : Nat) : Prop :=
  ∀ condition : GraphCondition, condition.rank < bound → ¬ condition.Fails document

theorem rank_injective : Function.Injective rank := by
  intro a b h
  cases a <;> cases b <;> first | rfl | exact absurd h (by decide)

theorem metBelow_zero (document : Value) : MetBelow document 0 :=
  fun _ h => absurd h (Nat.not_lt_zero _)

theorem MetBelow.succ {document : Value} {condition : GraphCondition}
    (h : MetBelow document condition.rank) (hmet : ¬ condition.Fails document) :
    MetBelow document (condition.rank + 1) := by
  intro other hlt
  rcases Nat.lt_succ_iff_lt_or_eq.1 hlt with hbelow | hsame
  · exact h other hbelow
  · rwa [rank_injective hsame]

theorem MetBelow.le_rank {document : Value} {bound : Nat} (h : MetBelow document bound)
    (condition : GraphCondition) (hfails : condition.Fails document) : bound ≤ condition.rank :=
  Nat.le_of_not_lt fun hlt => h condition hlt hfails

end GraphCondition

namespace GraphFault

/-- The condition that the fault is about. -/
def condition : GraphFault → GraphCondition
  | .notMapping => .mapping
  | .nodesNotList => .nodeList
  | .connectionsNotMapping => .table
  | .nodeNotMapping .. => .nodeMappings
  | .mismatch _ => .noIssues

/-- What the fault tells is so: the entry is the first that is no mapping, and the issues are those
of the document. -/
def Tells (document : Value) : GraphFault → Prop
  | .nodeNotMapping position kind =>
    (∃ entry, document.nodeList[position]? = some entry ∧ entry.members? = none
      ∧ entry.kindName = kind)
      ∧ ∀ earlier ∈ document.nodeList.take position, earlier.members? ≠ none
  | .mismatch issues => ∀ issue, issue ∈ issues ↔ issue.Of document
  | _ => True

end GraphFault

/-! ## Keys -/

theorem Scalar.not_isText_iff {key : Scalar} : ¬ key.IsText ↔ ∀ name, key ≠ .text name :=
  not_exists

theorem Scalar.IsText.readsAsText {key : Scalar} (h : key.IsText) : key.ReadsAsText := by
  obtain ⟨name, rfl⟩ := h
  exact ⟨name, .text name⟩

theorem Members.mem_keysNotText_iff_isText {members : Members} {key : Scalar} :
    key ∈ members.keysNotText ↔ key ∈ members.map (·.1) ∧ ¬ key.IsText := by
  rw [Members.mem_keysNotText_iff, Scalar.not_isText_iff]

namespace Node

/-- A key in a bag becomes the text that it reads as, or it reads as none and stays as it is. -/
theorem bagKey_cases (key : Scalar) :
    (∃ name, key.ReadsAs name ∧ bagKey key = .text name)
      ∨ (¬ key.ReadsAsText ∧ bagKey key = key) := by
  cases key with
  | text name => exact .inl ⟨name, .text name, rfl⟩
  | octets bytes =>
    -- octets that are no UTF-8 stay a key of octets
    cases hdecode : Utf8.decode bytes with
    | ok cs => exact .inl ⟨String.ofList cs, .octets hdecode, by simp only [bagKey, hdecode]⟩
    | error fault =>
      refine .inr ⟨?_, by simp only [bagKey, hdecode]⟩
      rintro ⟨name, hname⟩
      cases hname with
      | octets decoded =>
        rw [hdecode] at decoded
        exact nomatch decoded
  | _ => exact .inr ⟨fun ⟨_, hname⟩ => (nomatch hname), rfl⟩

/-- A mapping with its keys read as those of a bag. -/
def readKeys (members : Members) : Members :=
  members.map fun member => (bagKey member.1, member.2)

/-- The keys that stay no texts when a mapping is read as a bag are among those that are none. -/
theorem keysNotText_readKeys_sublist (members : Members) :
    (readKeys members).keysNotText.Sublist members.keysNotText := by
  induction members with
  | nil => exact .slnil
  | cons member rest ih =>
    obtain ⟨key, value⟩ := member
    change (Members.keysNotText ((bagKey key, value) :: readKeys rest)).Sublist _
    by_cases hkey : key.IsText
    · obtain ⟨name, rfl⟩ := hkey
      exact ih
    -- a key that becomes a text drops out, and any other stays in its place
    · have hnot := Scalar.not_isText_iff.1 hkey
      rw [Members.keysNotText_cons_of_not_text value rest hnot]
      rcases bagKey_cases key with ⟨name, -, hname⟩ | ⟨-, hsame⟩
      · rw [hname]
        exact ih.cons _
      · rw [hsame, Members.keysNotText_cons_of_not_text value _ hnot]
        exact ih.cons_cons key

theorem mem_keysNotText_readKeys_iff {members : Members} {key : Scalar} :
    key ∈ (readKeys members).keysNotText ↔ key ∈ members.map (·.1) ∧ ¬ key.ReadsAsText := by
  have hkeys : (readKeys members).map (·.1) = (members.map (·.1)).map bagKey := by
    rw [readKeys, List.map_map, List.map_map]
    rfl
  rw [Members.mem_keysNotText_iff_isText, hkeys, List.mem_map]
  constructor
  · rintro ⟨⟨stated, hmem, rfl⟩, hnot⟩
    rcases bagKey_cases stated with ⟨name, -, hname⟩ | ⟨hreads, hsame⟩
    · exact absurd ⟨name, hname⟩ hnot
    · rw [hsame]
      exact ⟨hmem, hreads⟩
  · rintro ⟨hmem, hreads⟩
    rcases bagKey_cases key with ⟨name, hname, -⟩ | ⟨-, hsame⟩
    · exact absurd ⟨name, hname⟩ hreads
    · exact ⟨⟨key, hmem, hsame⟩, fun htext => hreads htext.readsAsText⟩

/-- A mapping is its own bag, or it has keys of octets and is set anew under their texts. -/
theorem bag_cases {value : Value} {members : Members} (hmembers : value.members? = some members) :
    ((∀ member ∈ members, isOctets member.1 = false) ∧ bag (some value) = members)
      ∨ ((∃ member ∈ members, isOctets member.1 = true)
        ∧ bag (some value) = .ofPairs (readKeys members)) := by
  rw [bag, Option.bind_some, hmembers, Option.getD_some]
  cases hany : members.any fun member => isOctets member.1 with
  | true => exact .inr ⟨List.any_eq_true.1 hany, rfl⟩
  | false =>
    exact .inl ⟨fun member hmem => Bool.eq_false_iff.2 (List.any_eq_false.1 hany member hmem), rfl⟩

theorem bagKey_eq_self {key : Scalar} (h : isOctets key = false) : bagKey key = key := by
  cases key with
  | octets bytes => exact nomatch h
  | _ => rfl

theorem readKeys_eq_self {members : Members}
    (h : ∀ member ∈ members, isOctets member.1 = false) : readKeys members = members := by
  have hsame : ∀ member ∈ members, (bagKey member.1, member.2) = member := by
    intro member hmem
    rw [bagKey_eq_self (h member hmem)]
  exact (List.map_congr_left hsame).trans (List.map_id' members)

/-- The keys are distinct, so no two are merged when the members are set anew. -/
theorem keysNotText_bag {value : Value} {members : Members}
    (hmembers : value.members? = some members) (hdistinct : members.Distinct) :
    (bag (some value)).keysNotText = (readKeys members).keysNotText := by
  rcases bag_cases hmembers with ⟨hkeys, hbag⟩ | ⟨-, hbag⟩
  · rw [hbag, readKeys_eq_self hkeys]
  · have hpairwise := Members.pairwise_keysNotText hdistinct
    rw [hbag]
    exact Members.keysNotText_ofPairs (hpairwise.sublist (keysNotText_readKeys_sublist members))

/-- **The keys of a bag that are no texts** are the stated keys that do not read as texts. -/
theorem mem_keysNotText_bag_iff {stated : Option Value}
    (h : ∀ value, stated = some value → value.Keyed) {key : Scalar} :
    key ∈ (bag stated).keysNotText
      ↔ ∃ value, stated = some value ∧ key ∈ value.keys ∧ ¬ key.ReadsAsText := by
  cases hmembers : stated.bind Value.members? with
  | none =>
    rw [bag, hmembers]
    refine iff_of_false List.not_mem_nil ?_
    rintro ⟨value, rfl, hkey, -⟩
    rw [Value.keys, show value.members? = none from hmembers] at hkey
    exact List.not_mem_nil hkey
  | some members =>
    obtain ⟨value, rfl, hvalue⟩ := Option.bind_eq_some_iff.1 hmembers
    have hdistinct : members.Distinct := ((h value rfl).members? hvalue).distinct
    rw [keysNotText_bag hvalue hdistinct, mem_keysNotText_readKeys_iff, ← Value.keys_eq hvalue]
    constructor
    · intro hkey
      exact ⟨value, rfl, hkey⟩
    · rintro ⟨other, hother, hkey⟩
      cases hother
      exact hkey

/-! ## Issues -/

/-- A field is stated by a number without a text. -/
theorem statesLongNumeral_iff {entry : Members} {field : TextField} :
    statesLongNumeral entry field = true
      ↔ ∃ n, entry.get? field.memberName = some (.int n) ∧ isWritable n = false := by
  rw [statesLongNumeral]
  cases entry.get? field.memberName with
  | none => simp
  | some value =>
    cases value with
    | scalar s => cases s <;> simp [Value.number?, Scalar.number?, Number.isWritable]
    | _ => simp [Value.number?]

theorem mem_issues {position : Nat} {entry : Members} {issue : GraphIssue} :
    issue ∈ issues position entry
      ↔ (∃ field, statesLongNumeral entry field = true ∧ issue = .longNumeral position field)
        ∨ (∃ b : NodeBag, ∃ key ∈ (bag (entry.get? b.name)).keysNotText,
          issue = .bagKey position b key)
        ∨ ∃ key ∈ entry.keysNotText, issue = .nodeKey position key := by
  have hfields : ∀ field : TextField, field ∈ [TextField.id, .name, .type] := fun field => by
    cases field <;> simp
  simp only [issues, List.mem_append, List.mem_map, List.mem_filter, hfields, true_and]
  constructor
  · rintro (((⟨field, hlong, rfl⟩ | ⟨key, hkey, rfl⟩) | ⟨key, hkey, rfl⟩) | ⟨key, hkey, rfl⟩)
    · exact .inl ⟨field, hlong, rfl⟩
    · exact .inr (.inl ⟨.parameters, key, hkey, rfl⟩)
    · exact .inr (.inl ⟨.credentials, key, hkey, rfl⟩)
    · exact .inr (.inr ⟨key, hkey, rfl⟩)
  · rintro (⟨field, hlong, rfl⟩ | ⟨b, key, hkey, rfl⟩ | ⟨key, hkey, rfl⟩)
    · exact .inl (.inl (.inl ⟨field, hlong, rfl⟩))
    · cases b with
      | parameters => exact .inl (.inl (.inr ⟨key, hkey, rfl⟩))
      | credentials => exact .inl (.inr ⟨key, hkey, rfl⟩)
    · exact .inr ⟨key, hkey, rfl⟩

/-- **The issues of a node entry**, as the reader finds them. -/
theorem mem_issues_iff {position : Nat} {entry : Value} {members : Members} {issue : GraphIssue}
    (hkeyed : entry.Keyed) (hmembers : entry.members? = some members) :
    issue ∈ issues position members ↔ issue.OfNode position entry := by
  have hget := Value.get?_eq hmembers
  have hbag : ∀ b : NodeBag, ∀ value, members.get? b.name = some value → value.Keyed :=
    fun b value hvalue => Value.keyed_of_get? hkeyed ((hget b.name).trans hvalue)
  rw [mem_issues]
  constructor
  · rintro (⟨field, hlong, rfl⟩ | ⟨b, key, hkey, rfl⟩ | ⟨key, hkey, rfl⟩)
    · obtain ⟨n, hstated, hlong⟩ := statesLongNumeral_iff.1 hlong
      exact .longNumeral ((hget _).trans hstated) hlong
    · obtain ⟨value, hstated, hmem, hunread⟩ := (mem_keysNotText_bag_iff (hbag b)).1 hkey
      exact .bagKey ((hget _).trans hstated) hmem hunread
    · obtain ⟨hmem, hnot⟩ := Members.mem_keysNotText_iff_isText.1 hkey
      exact .nodeKey ((Value.keys_eq hmembers).symm ▸ hmem) hnot
  · intro h
    cases h with
    | @longNumeral field n stated long =>
      rw [hget] at stated
      exact .inl ⟨field, statesLongNumeral_iff.2 ⟨n, stated, long⟩, rfl⟩
    | @bagKey b value key stated mem unread =>
      rw [hget] at stated
      exact .inr (.inl ⟨b, key, (mem_keysNotText_bag_iff (hbag b)).2 ⟨value, stated, mem, unread⟩,
        rfl⟩)
    | @nodeKey key mem notText =>
      rw [Value.keys_eq hmembers] at mem
      exact .inr (.inr ⟨key, Members.mem_keysNotText_iff_isText.2 ⟨mem, notText⟩, rfl⟩)

end Node

namespace Graph

/-- **The issues of a document**, as the reader finds them. -/
theorem mem_issues_iff {document : Value} {workflow : Members} {nodes : List Members}
    (hkeyed : document.Keyed) (hworkflow : document.members? = some workflow)
    (hnodes : entries 0 document.nodeList = .ok nodes) {issue : GraphIssue} :
    issue ∈ issues workflow nodes ↔ issue.Of document := by
  have hentries := entries_eq_ok_iff.1 hnodes
  have hnode : ∀ {position entry members}, document.nodeList[position]? = some entry →
      entry.members? = some members →
      (issue ∈ Node.issues position members ↔ issue.OfNode position entry) := by
    intro position entry members hlisted hmembers
    have hentry : entry.Keyed :=
      Value.keyed_of_mem_nodeList hkeyed entry (List.mem_of_getElem? hlisted)
    exact Node.mem_issues_iff hentry hmembers
  -- the entries and what is read of them have the same positions
  rw [issues, List.mem_append, List.mem_flatMap]
  constructor
  · rintro (⟨⟨members, position⟩, hmem, hissue⟩ | hissue)
    · obtain ⟨entry, hlisted, hmembers⟩ :=
        Outcome.exists_getElem?_right hentries (List.mem_zipIdx_iff_getElem?.1 hmem)
      exact .node hlisted ((hnode hlisted hmembers).1 hissue)
    · obtain ⟨key, hkey, rfl⟩ := List.mem_map.1 hissue
      obtain ⟨hmem, hnot⟩ := Members.mem_keysNotText_iff_isText.1 hkey
      exact .workflowKey ((Value.keys_eq hworkflow).symm ▸ hmem) hnot
  · intro h
    cases h with
    | @node position entry _ listed of =>
      obtain ⟨members, hlisted, hmembers⟩ := Outcome.exists_getElem?_left hentries listed
      exact .inl ⟨(members, position), List.mem_zipIdx_iff_getElem?.2 hlisted,
        (hnode listed hmembers).2 of⟩
    | @workflowKey key mem notText =>
      rw [Value.keys_eq hworkflow] at mem
      exact .inr (List.mem_map_of_mem (Members.mem_keysNotText_iff_isText.2 ⟨mem, notText⟩))

/-! ## Faults -/

/-- A node list is refused for its first entry that is no mapping. -/
theorem of_entries_eq_error {start : Nat} {stated : List Value} {fault : GraphFault}
    (h : entries start stated = .error fault) :
    ∃ position entry, stated[position]? = some entry ∧ entry.members? = none
      ∧ (∀ earlier ∈ stated.take position, earlier.members? ≠ none)
      ∧ fault = .nodeNotMapping (start + position) entry.kindName := by
  induction stated generalizing start with
  | nil => cases h
  | cons first rest ih =>
    rw [entries] at h
    split at h
    · next members hmembers =>
      rcases Outcome.bind_eq_error_iff.1 h with hrest | ⟨others, -, hpure⟩
      -- the entry is behind the first one, and one place further on than in the rest
      · obtain ⟨position, entry, hlisted, hentry, hearlier, rfl⟩ := ih hrest
        have hplace : start + 1 + position = start + (position + 1) := by omega
        refine ⟨position + 1, entry, hlisted, hentry, ?_, by rw [hplace]⟩
        rw [List.take_succ_cons, List.forall_mem_cons]
        exact ⟨by simp [hmembers], hearlier⟩
      · cases hpure
    · next hfirst =>
      cases h
      exact ⟨0, first, rfl, hfirst, by simp, rfl⟩

/-- A connection table is refused when it is stated, not null, and no mapping. -/
theorem table_eq_error_iff {stated : Option Value} {fault : GraphFault} :
    table stated = .error fault
      ↔ fault = .connectionsNotMapping
        ∧ ∃ value, stated = some value ∧ value ≠ .null ∧ value.members? = none := by
  unfold table
  split
  · simp
  · simp
  · next value hnull =>
    split
    · next members hmembers => simp [hmembers]
    · next hmembers => simp [hmembers, show value ≠ .null from hnull, eq_comm]

variable {document : Value} {workflow : Members} {stated : List Value} {nodes : List Members}

theorem metBelow_nodeList (h : document.members? = some workflow) :
    GraphCondition.MetBelow document GraphCondition.nodeList.rank := by
  have hstart : GraphCondition.MetBelow document GraphCondition.mapping.rank :=
    GraphCondition.metBelow_zero document
  refine hstart.succ fun hfails => ?_
  rw [GraphCondition.Fails, h] at hfails
  exact nomatch hfails

theorem metBelow_table (hworkflow : document.members? = some workflow)
    (h : (document.get? "nodes").bind Value.items? = some stated) :
    GraphCondition.MetBelow document GraphCondition.table.rank := by
  refine (metBelow_nodeList hworkflow).succ fun hfails => ?_
  rw [GraphCondition.Fails, h] at hfails
  exact nomatch hfails

theorem metBelow_nodeMappings {connections : Members}
    (hbefore : GraphCondition.MetBelow document GraphCondition.table.rank)
    (h : table (document.get? "connections") = .ok connections) :
    GraphCondition.MetBelow document GraphCondition.nodeMappings.rank :=
  hbefore.succ fun hfails => by
    rw [table_eq_error_iff.2 ⟨rfl, hfails⟩] at h
    exact nomatch h

theorem metBelow_noIssues
    (hbefore : GraphCondition.MetBelow document GraphCondition.nodeMappings.rank)
    (h : entries 0 document.nodeList = .ok nodes) :
    GraphCondition.MetBelow document GraphCondition.noIssues.rank := by
  refine hbefore.succ ?_
  rintro ⟨entry, hentry, hnone⟩
  obtain ⟨members, -, hmembers⟩ := Outcome.exists_of_mem_left (entries_eq_ok_iff.1 h) hentry
  rw [hnone] at hmembers
  exact nomatch hmembers

theorem fails_noIssues_iff (hkeyed : document.Keyed) (hworkflow : document.members? = some workflow)
    (hnodes : entries 0 document.nodeList = .ok nodes) :
    GraphCondition.noIssues.Fails document ↔ issues workflow nodes ≠ [] := by
  rw [← List.length_pos_iff_ne_nil, List.length_pos_iff_exists_mem]
  exact exists_congr fun _ => (mem_issues_iff hkeyed hworkflow hnodes).symm

/-- **A workflow meets every condition.** -/
theorem not_fails_of_ofValue (hkeyed : document.Keyed) {g : Graph} (h : ofValue document = .ok g)
    (condition : GraphCondition) : ¬ condition.Fails document := by
  obtain ⟨workflow, stated, nodes, connections, hworkflow, hstated, htable, hnodes, hissues, -⟩ :=
    ofValue_eq_ok_iff.1 h
  rw [← Value.get?_eq hworkflow] at hstated htable
  rw [← Value.nodeList_eq hstated] at hnodes
  have hmet := metBelow_noIssues (metBelow_nodeMappings (metBelow_table hworkflow hstated) htable)
    hnodes
  have hall := hmet.succ (by
    rw [fails_noIssues_iff hkeyed hworkflow hnodes, hissues]
    exact not_not_intro rfl)
  exact hall condition (by cases condition <;> decide)

/-- **The fault of a document** is about the first condition that the document does not meet. -/
theorem fails_of_ofValue (hkeyed : document.Keyed) {fault : GraphFault}
    (h : ofValue document = .error fault) :
    fault.condition.Fails document
      ∧ (∀ condition : GraphCondition, condition.Fails document →
        fault.condition.rank ≤ condition.rank)
      ∧ fault.Tells document := by
  unfold ofValue at h
  split at h
  · next hworkflow =>
    cases h
    exact ⟨hworkflow, (GraphCondition.metBelow_zero document).le_rank, trivial⟩
  next workflow hworkflow =>
  rw [← Value.get?_eq hworkflow "nodes", ← Value.get?_eq hworkflow "connections"] at h
  dsimp only at h
  -- what is looked at next is looked at when all before it is met
  split at h
  case h_2 hstated =>
    cases h
    exact ⟨hstated, (metBelow_nodeList hworkflow).le_rank, trivial⟩
  next stated hstated =>
  rw [pure_bind] at h
  have hmet := metBelow_table hworkflow hstated
  rcases Outcome.bind_eq_error_iff.1 h with htable | ⟨connections, htable, h⟩
  · obtain ⟨rfl, hfails⟩ := table_eq_error_iff.1 htable
    exact ⟨hfails, hmet.le_rank, trivial⟩
  replace hmet := metBelow_nodeMappings hmet htable
  rw [← Value.nodeList_eq hstated] at h
  rcases Outcome.bind_eq_error_iff.1 h with hnodes | ⟨nodes, hnodes, h⟩
  · obtain ⟨position, entry, hlisted, hnone, hearlier, rfl⟩ := of_entries_eq_error hnodes
    rw [Nat.zero_add]
    exact ⟨⟨entry, List.mem_of_getElem? hlisted, hnone⟩, hmet.le_rank,
      ⟨entry, hlisted, hnone, rfl⟩, hearlier⟩
  replace hmet := metBelow_noIssues hmet hnodes
  split at h
  · exact nomatch h
  · next hissues =>
    cases h
    exact ⟨(fails_noIssues_iff hkeyed hworkflow hnodes).2 hissues, hmet.le_rank,
      fun issue => mem_issues_iff hkeyed hworkflow hnodes⟩

end Graph

end FlowLint
