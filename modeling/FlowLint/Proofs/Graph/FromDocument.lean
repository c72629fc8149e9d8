import FlowLint.Graph.Reader
import FlowLint.Proofs.Json.Documents
import FlowLint.Proofs.Wiring.Table

/-!
# Workflows and their documents

A workflow keeps parts of its document as they are: the parameters and credentials of the nodes and
the connection table. What holds of all parts of the document holds of them.

* **`Graph.ofValue_eq_ok_iff`**: when a document is a workflow, and which one.
* **`Graph.bags_isJson`**: in a JSON document the bags of the nodes are JSON mappings.
* **`Graph.tableDistinct_of_keyed`**, **`Graph.bagsDistinct_of_keyed`**: the connection table holds
  no key twice, at both its levels, and neither do the bags, when no mapping in the document does.
-/

namespace FlowLint

/-- The members of an absent value or of a JSON value, read as a bag, are a JSON mapping. -/
theorem Node.isJson_bag {stated : Option Value} (h : ∀ v, stated = some v → v.IsJson) :
    Value.IsJson (.map (Node.bag stated)) := by
  have hmembers : Value.IsJson (.map ((stated.bind Value.members?).getD [])) := by
    cases hbind : stated.bind Value.members? with
    | none => exact .map .nil (by simp) (by simp)
    | some members =>
      obtain ⟨v, hv, hm⟩ := Option.bind_eq_some_iff.1 hbind
      exact (h v hv).members? hm
  -- no key is made of octets, so the keys stay as they are
  have hkeys : ((stated.bind Value.members?).getD []).any (fun member => Node.isOctets member.1)
      = false := by
    rw [List.any_eq_false]
    intro member hmem
    obtain ⟨name, hname⟩ := hmembers.texts member hmem
    rw [hname]
    exact Bool.false_ne_true
  rw [Node.bag, if_neg (by rw [hkeys]; exact Bool.false_ne_true)]
  exact hmembers

/-- The members of an absent value or of a keyed value, read as a bag, hold no key twice. -/
theorem Node.distinct_bag {stated : Option Value} (h : ∀ v, stated = some v → v.Keyed) :
    (Node.bag stated).Distinct := by
  have hmembers : Value.Keyed (.map ((stated.bind Value.members?).getD [])) := by
    cases hbind : stated.bind Value.members? with
    | none => exact .map .nil (by simp)
    | some members =>
      obtain ⟨v, hv, hm⟩ := Option.bind_eq_some_iff.1 hbind
      exact (h v hv).members? hm
  simp only [Node.bag]
  split
  -- keys that become the same text are set one after the other
  · refine (Value.Keyed.map_ofPairs fun pair hpair => ?_).distinct
    obtain ⟨member, hmember, rfl⟩ := List.mem_map.1 hpair
    have hvalue : member.2.Keyed := hmembers.of_mem hmember
    exact hvalue
  · exact hmembers.distinct

/-- The parameters of every node hold no key twice, and neither do its credentials. -/
def Graph.BagsDistinct (g : Graph) : Prop :=
  ∀ n ∈ g.nodes, n.parameters.Distinct ∧ n.credentials.Distinct

namespace Graph

/-- A node list is read when each of its entries is a mapping, to their members. -/
theorem entries_eq_ok_iff {position : Nat} {stated : List Value} {nodes : List Members} :
    entries position stated = .ok nodes
      ↔ List.Forall₂ (fun value entry => value.members? = some entry) stated nodes := by
  induction stated generalizing position nodes with
  | nil => simp [entries, eq_comm]
  | cons first rest ih =>
    rw [entries]
    constructor
    · intro h
      split at h
      · next members hmembers =>
        obtain ⟨others, hothers, hall⟩ := Outcome.bind_eq_ok_iff.1 h
        cases hall
        exact .cons hmembers (ih.1 hothers)
      · exact nomatch h
    · intro h
      cases h with
      | cons hfirst hrest =>
        rw [hfirst]
        exact Outcome.bind_eq_ok_iff.2 ⟨_, ih.2 hrest, rfl⟩

/-- **When a document is a workflow.** It is a mapping with a list of mappings for nodes and a
mapping for connections, and nothing in it is at issue. -/
theorem ofValue_eq_ok_iff {document : Value} {g : Graph} :
    ofValue document = .ok g
      ↔ ∃ workflow stated nodes connections, document.members? = some workflow
        ∧ (workflow.get? "nodes").bind Value.items? = some stated
        ∧ table (workflow.get? "connections") = .ok connections
        ∧ entries 0 stated = .ok nodes
        ∧ issues workflow nodes = []
        ∧ g = {
            name := (workflow.get? "name").bind Value.text?
            nodes := nodes.map Node.ofMembers
            connections
            extra := workflow.without knownMembers } := by
  constructor
  · intro h
    unfold ofValue at h
    split at h
    · exact nomatch h
    · next workflow hworkflow =>
      dsimp only at h
      split at h
      · next stated hstated =>
        rw [pure_bind] at h
        obtain ⟨connections, hconnections, h⟩ := Outcome.bind_eq_ok_iff.1 h
        obtain ⟨nodes, hnodes, h⟩ := Outcome.bind_eq_ok_iff.1 h
        split at h
        · next hissues =>
          cases h
          exact ⟨workflow, stated, nodes, connections, hworkflow, hstated, hconnections, hnodes,
            hissues, rfl⟩
        · exact nomatch h
      · exact nomatch h
  · rintro ⟨workflow, stated, nodes, connections, hworkflow, hstated, hconnections, hnodes,
      hissues, rfl⟩
    unfold ofValue
    rw [hworkflow]
    dsimp only
    rw [hstated]
    dsimp only
    rw [pure_bind]
    refine Outcome.bind_eq_ok_iff.2 ⟨connections, hconnections, ?_⟩
    refine Outcome.bind_eq_ok_iff.2 ⟨nodes, hnodes, ?_⟩
    rw [hissues]
    rfl

section

variable {document : Value} {g : Graph}

/-- The bags of the nodes are JSON mappings. -/
theorem bags_isJson (hdocument : document.IsJson) (h : ofValue document = .ok g) :
    ∀ n ∈ g.nodes, Value.IsJson (.map n.parameters) ∧ Value.IsJson (.map n.credentials) := by
  obtain ⟨workflow, stated, nodes, connections, hworkflow, hstated, -, hnodes, -, rfl⟩ :=
    ofValue_eq_ok_iff.1 h
  intro n hn
  obtain ⟨entry, hentry, rfl⟩ := List.mem_map.1 hn
  obtain ⟨list, hlist, hitems⟩ := Option.bind_eq_some_iff.1 hstated
  obtain ⟨value, hvalue, hmembers⟩ :=
    Outcome.exists_of_mem_right (entries_eq_ok_iff.1 hnodes) hentry
  have hlistJson : list.IsJson := (hdocument.members? hworkflow).get? hlist
  have hentryJson : Value.IsJson (.map entry) :=
    (hlistJson.items? hitems value hvalue).members? hmembers
  exact ⟨Node.isJson_bag fun v hv => hentryJson.get? hv,
    Node.isJson_bag fun v hv => hentryJson.get? hv⟩

/-- The connection table of a keyed document is keyed. -/
theorem connections_keyed (hdocument : document.Keyed) (h : ofValue document = .ok g) :
    Value.Keyed (.map g.connections) := by
  obtain ⟨workflow, stated, nodes, connections, hworkflow, -, htable, -, -, rfl⟩ :=
    ofValue_eq_ok_iff.1 h
  show Value.Keyed (.map connections)
  have hempty : Value.Keyed (.map []) := .map .nil (by simp)
  unfold table at htable
  split at htable
  · cases htable
    exact hempty
  · cases htable
    exact hempty
  · next value _ hvalue =>
    split at htable
    · next members hmembers =>
      cases htable
      exact ((hdocument.members? hworkflow).get? hvalue).members? hmembers
    · exact nomatch htable

/-- **The table of a keyed document holds no key twice.** -/
theorem tableDistinct_of_keyed (hdocument : document.Keyed) (h : ofValue document = .ok g) :
    g.TableDistinct := by
  have htable := connections_keyed hdocument h
  refine ⟨htable.distinct, fun member hmem => ?_⟩
  cases hmembers : member.2.members? with
  | none => exact .nil
  | some members => exact ((htable.of_mem hmem).members? hmembers).distinct

/-- **The bags of a keyed document hold no key twice.** -/
theorem bagsDistinct_of_keyed (hdocument : document.Keyed) (h : ofValue document = .ok g) :
    g.BagsDistinct := by
  obtain ⟨workflow, stated, nodes, connections, hworkflow, hstated, -, hnodes, -, rfl⟩ :=
    ofValue_eq_ok_iff.1 h
  intro n hn
  obtain ⟨entry, hentry, rfl⟩ := List.mem_map.1 hn
  obtain ⟨list, hlist, hitems⟩ := Option.bind_eq_some_iff.1 hstated
  obtain ⟨value, hvalue, hmembers⟩ :=
    Outcome.exists_of_mem_right (entries_eq_ok_iff.1 hnodes) hentry
  have hlistKeyed : list.Keyed := (hdocument.members? hworkflow).get? hlist
  have hentryKeyed : Value.Keyed (.map entry) :=
    (hlistKeyed.items? hitems value hvalue).members? hmembers
  exact ⟨Node.distinct_bag fun v hv => hentryKeyed.get? hv,
    Node.distinct_bag fun v hv => hentryKeyed.get? hv⟩

end

end Graph

end FlowLint
