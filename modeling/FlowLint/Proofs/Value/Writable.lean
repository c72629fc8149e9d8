import FlowLint.Proofs.Json.Documents

/-!
# Values without long integers

A value can be written when no integer in it has too many digits. Its parts can be written then,
also where a value that contains itself is opened, so a statement about all integers of a document
is one about the integers that are looked at.

* **`Value.isWritable_tie`**: opening a knot brings in no other integers.
* **`Value.isWritable_members?`**, **`Value.isWritable_items?`**, **`Value.isWritable_get?`**: the
  parts.
-/

namespace FlowLint.Value

mutual

/-- Putting a whole that can be written in the places that go back to it brings in no other
integers. -/
theorem isWritable_tie {number : Nat} {whole : Value} (hwhole : whole.isWritable = true) :
    (value : Value) → value.isWritable = true → (tie number whole value).isWritable = true
  | .scalar s, h => by
    rw [tie]
    exact h
  | .list items, h => by
    rw [tie, isWritable]
    exact areWritable_tieItems hwhole items h
  | .map members, h => by
    rw [tie, isWritable]
    exact areMembersWritable_tieMembers hwhole members h
  | .pair first second, h => by
    rw [isWritable, Bool.and_eq_true] at h
    rw [tie, isWritable, Bool.and_eq_true]
    exact ⟨isWritable_tie hwhole first h.1, isWritable_tie hwhole second h.2⟩
  | .set members, h => by
    rw [tie]
    exact h
  | .knot other body, h => by
    rw [tie]
    split
    · exact h
    · rw [isWritable] at h ⊢
      exact isWritable_tie hwhole body h
  | .back other, _ => by
    rw [tie]
    split
    · exact hwhole
    · rfl

theorem areWritable_tieItems {number : Nat} {whole : Value} (hwhole : whole.isWritable = true) :
    (items : List Value) → areWritable items = true →
      areWritable (tieItems number whole items) = true
  | [], _ => rfl
  | item :: rest, h => by
    rw [areWritable, Bool.and_eq_true] at h
    rw [tieItems, areWritable, Bool.and_eq_true]
    exact ⟨isWritable_tie hwhole item h.1, areWritable_tieItems hwhole rest h.2⟩

theorem areMembersWritable_tieMembers {number : Nat} {whole : Value}
    (hwhole : whole.isWritable = true) :
    (members : List (Scalar × Value)) → areMembersWritable members = true →
      areMembersWritable (tieMembers number whole members) = true
  | [], _ => rfl
  | (key, value) :: rest, h => by
    rw [areMembersWritable, Bool.and_eq_true, Bool.and_eq_true] at h
    rw [tieMembers, areMembersWritable, Bool.and_eq_true, Bool.and_eq_true]
    exact
      ⟨⟨h.1.1, isWritable_tie hwhole value h.1.2⟩, areMembersWritable_tieMembers hwhole rest h.2⟩

end

variable {v : Value}

theorem isWritable_unfold (h : v.isWritable = true) : v.unfold.isWritable = true := by
  cases v with
  | knot number body => exact isWritable_tie h body h
  | _ => exact h

theorem isWritable_members? (h : v.isWritable = true) {members : Members}
    (hmembers : v.members? = some members) :
    ∀ member ∈ members, member.1.isWritable = true ∧ member.2.isWritable = true := by
  have hopen := isWritable_unfold h
  rw [members?] at hmembers
  split at hmembers
  · next found hfound =>
    cases hmembers
    rw [hfound, isWritable] at hopen
    exact areMembersWritable_iff.1 hopen
  · cases hmembers

theorem isWritable_items? (h : v.isWritable = true) {items : List Value}
    (hitems : v.items? = some items) : ∀ item ∈ items, item.isWritable = true := by
  have hopen := isWritable_unfold h
  rw [items?] at hitems
  split at hitems
  · next found hfound =>
    cases hitems
    rw [hfound, isWritable] at hopen
    exact areWritable_iff.1 hopen
  · cases hitems

/-- What a value holds under a text can be written. -/
theorem isWritable_get? (h : v.isWritable = true) {key : String} {value : Value}
    (hget : (v.members?.getD []).get? key = some value) : value.isWritable = true := by
  cases hmembers : v.members? with
  | none =>
    rw [hmembers] at hget
    exact nomatch hget
  | some members =>
    rw [hmembers, Option.getD_some, Members.get?, Option.map_eq_some_iff] at hget
    obtain ⟨member, hfind, rfl⟩ := hget
    exact (isWritable_members? h hmembers member (List.mem_of_find?_eq_some hfind)).2

end FlowLint.Value
