import FlowLint.Proofs.Outcome
import FlowLint.Proofs.Value.Keys
import FlowLint.Yaml.Reader

/-!
# Values of YAML documents

A YAML document is put together from the values of its nodes, and each value is kept for the places
that share the node. All of them are keyed, knots included.

* **`Construction.gives_valueWith`**: an induction over the fuel, with the values kept so far as the
  invariant.
* **`keyed_of_read`**: what is read from a YAML text is keyed.
-/

namespace FlowLint.Yaml

namespace Construction

/-- The values put together so far are keyed. -/
def AllKeyed (values : Values) : Prop :=
  ∀ v, some v ∈ values → v.Keyed

/-- From keyed values a step leads to keyed values, with a result that has the property. -/
def Gives {α : Type} (P : α → Prop) (step : StateM Values α) : Prop :=
  ∀ values, AllKeyed values → P (step.run values).1 ∧ AllKeyed (step.run values).2

namespace Gives

variable {α β : Type} {P : α → Prop} {Q : β → Prop}

theorem pure {result : α} (h : P result) : Gives P (pure result) :=
  fun _ hvalues => ⟨h, hvalues⟩

theorem bind {first : StateM Values β} {next : β → StateM Values α} (hfirst : Gives Q first)
    (hnext : ∀ result, Q result → Gives P (next result)) : Gives P (first >>= next) := by
  intro values hvalues
  obtain ⟨hresult, hafter⟩ := hfirst values hvalues
  exact hnext _ hresult _ hafter

/-- A walk over a list keeps what its steps keep. -/
theorem mapM {items : List β} {step : β → StateM Values α}
    (h : ∀ item ∈ items, Gives P (step item)) :
    Gives (fun results => ∀ result ∈ results, P result) (items.mapM step) := by
  induction items with
  | nil =>
    rw [List.mapM_nil]
    exact .pure (by simp)
  | cons item rest ih =>
    obtain ⟨hitem, hrest⟩ := List.forall_mem_cons.1 h
    rw [List.mapM_cons]
    exact hitem.bind fun first hfirst => (ih hrest).bind fun others hothers =>
      .pure (List.forall_mem_cons.2 ⟨hfirst, hothers⟩)

end Gives

/-- Keeping a keyed value. -/
theorem AllKeyed.setIfInBounds {values : Values} {v : Value} (hvalues : AllKeyed values)
    (hv : v.Keyed) (id : NodeId) : AllKeyed (values.setIfInBounds id (some v)) := by
  intro other hother
  rcases Array.mem_or_eq_of_mem_setIfInBounds hother with hold | hnew
  · exact hvalues other hold
  · cases hnew
    exact hv

/-- A value that is kept is keyed. -/
theorem AllKeyed.getD {values : Values} (hvalues : AllKeyed values) {id : NodeId} {v : Value}
    (h : values.getD id none = some v) : v.Keyed := by
  rw [Array.getD_eq_getD_getElem?] at h
  cases hget : values[id]? with
  | none =>
    rw [hget] at h
    exact nomatch h
  | some kept =>
    rw [hget, Option.getD_some] at h
    exact hvalues v (h ▸ Array.mem_of_getElem? hget)

/-- What is made of the parts of a node is kept, or becomes a knot. -/
theorem gives_kept {body : Value} (hbody : body.Keyed) (inside : Bool) (id : NodeId) :
    Gives Value.Keyed (if inside = true then Pure.pure (Value.knot id body)
      else do
        modify fun values => values.setIfInBounds id (some body)
        return body) := by
  split
  · exact .pure (.knot hbody)
  · exact fun values hvalues => ⟨hbody, hvalues.setIfInBounds hbody id⟩

section

variable {part : NodeId → StateM Values Value} (hpart : ∀ id, Gives Value.Keyed (part id))

include hpart

theorem gives_members (members : List (Scalar × NodeId)) :
    Gives (fun pairs => ∀ pair ∈ pairs, Value.Keyed pair.2)
      (members.mapM fun member => do return (member.1, ← part member.2)) :=
  .mapM fun member _ => (hpart member.2).bind fun _ hvalue => .pure hvalue

theorem gives_pairs (pairs : List (NodeId × NodeId)) :
    Gives (fun items => ∀ item ∈ items, Value.Keyed item)
      (pairs.mapM fun pair => do
        let first ← part pair.1
        return first.pair (← part pair.2)) :=
  .mapM fun pair _ => (hpart pair.1).bind fun _ hfirst =>
    (hpart pair.2).bind fun _ hsecond => .pure (.pair hfirst hsecond)

end

/-- **The value of a node is keyed**, whatever has been put together before. -/
theorem gives_valueWith (state : Construction) (cyclic : List NodeId) (fuel : Nat) :
    ∀ around id, Gives Value.Keyed (state.valueWith cyclic around id fuel) := by
  induction fuel with
  | zero =>
    intro around id
    exact .pure (.scalar .null)
  | succ fuel ih =>
    intro around id
    unfold valueWith
    split
    · exact .pure (.back id)
    · refine Gives.bind (Q := AllKeyed) (fun values hvalues => ⟨hvalues, hvalues⟩) ?_
      intro values hvalues
      split
      · next v hv => exact .pure (hvalues.getD hv)
      · -- by what the node has become
        dsimp only
        split
        · exact gives_kept (.scalar _) _ id
        · refine (Gives.mapM fun part _ => ih _ part).bind fun items hitems => ?_
          exact gives_kept (.list hitems) _ id
        · refine (gives_members (ih _) _).bind fun pairs hpairs => ?_
          exact gives_kept (.map_ofPairs hpairs) _ id
        · refine (gives_pairs (ih _) _).bind fun items hitems => ?_
          exact gives_kept (.list hitems) _ id
        · exact gives_kept (.set _) _ id
        · exact gives_kept (.scalar .null) _ id
        · exact gives_kept (.scalar .null) _ id

/-- The value of a whole document is keyed. -/
theorem keyed_value (state : Construction) : state.value.Keyed := by
  refine (gives_valueWith state _ _ _ _ _ ?_).1
  intro v hv
  rw [Array.mem_replicate] at hv
  exact nomatch hv.2

end Construction

/-- **What is read from a YAML text is keyed.** -/
theorem keyed_of_read {text : List Char} {v : Value} (h : read text = .ok v) : v.Keyed := by
  obtain ⟨document?, -, h⟩ := Outcome.bind_eq_ok_iff.1 h
  cases document? with
  | none =>
    cases h
    exact .scalar .null
  | some document =>
    obtain ⟨state, -, h⟩ := Outcome.bind_eq_ok_iff.1 h
    cases h
    exact state.keyed_value

end FlowLint.Yaml
