import FlowLint.Params

/-!
# Blank parameters

A parameter is blank in two ways: it holds nothing itself, or it is a mapping whose member `value`
holds nothing. The second is meant for resource locators, which are marked as such; the mark is not
looked at.

* **`Value.isEmpty_iff`**: which values hold nothing.
* **`Param.isBlank_param?_iff`**: which parameters are blank.
-/

namespace FlowLint

namespace Value

/-- The value is a text of blanks, or a list or mapping without parts. -/
def HoldsNothing (value : Value) : Prop :=
  (∃ s, value.unfold = .text s ∧ Text.allBlank s.toList = true)
    ∨ value.items? = some [] ∨ value.members? = some []

/-- The value is a mapping whose member `value` is null or holds nothing. -/
def RefersToNothing (value : Value) : Prop :=
  ∃ members inner, value.members? = some members ∧ Members.get? members "value" = some inner
    ∧ (inner = .null ∨ inner.HoldsNothing)

/-- The value is a mapping with the mark of resource locators. -/
def IsMarked (value : Value) : Prop :=
  ∃ members, value.members? = some members ∧ Members.get? members "__rl" = some (.bool true)

theorem isEmpty_iff {value : Value} : value.isEmpty = true ↔ value.HoldsNothing := by
  unfold isEmpty HoldsNothing items? members?
  cases hopen : value.unfold with
  | scalar s => cases s <;> simp
  | _ => simp

theorem unfold_of_members? {value : Value} {members : Members}
    (h : value.members? = some members) : value.unfold = .map members := by
  unfold members? at h
  split at h
  · next hmap => rw [hmap, Option.some.inj h]
  · exact nomatch h

/-- A mapping that has the member `value` is no text, no list and not empty. -/
theorem not_holdsNothing_of_get? {value inner : Value} {members : Members}
    (hmembers : value.members? = some members) (hinner : members.get? "value" = some inner) :
    ¬ value.HoldsNothing := by
  have hopen : value.unfold = .map members := unfold_of_members? hmembers
  rintro (⟨s, htext, -⟩ | hitems | hnone)
  · exact nomatch htext.symm.trans hopen
  · rw [items?, hopen] at hitems
    exact nomatch hitems
  · obtain rfl := Option.some.inj (hmembers.symm.trans hnone)
    exact nomatch hinner

theorem refersToNothing_iff_of_get? {value inner : Value} {members : Members}
    (hmembers : value.members? = some members) (hinner : members.get? "value" = some inner) :
    value.RefersToNothing ↔ inner = .null ∨ inner.HoldsNothing := by
  constructor
  · rintro ⟨others, other, hsome, hget, hnothing⟩
    obtain rfl := Option.some.inj (hmembers.symm.trans hsome)
    obtain rfl := Option.some.inj (hinner.symm.trans hget)
    exact hnothing
  · intro hnothing
    exact ⟨members, inner, hmembers, hinner, hnothing⟩

end Value

namespace Members

/-- The parameter is absent or null, holds nothing, or refers to nothing. -/
def IsBlankAt (params : Members) (key : String) : Prop :=
  params.get? key = none ∨ ∃ value, params.get? key = some value
    ∧ (value = .null ∨ value.HoldsNothing ∨ value.RefersToNothing)

end Members

namespace Param

/-- A value that is no mapping with a member `value` is looked at itself. -/
theorem isBlank_of_none {value : Value}
    (h : value.members?.bind (Members.get? · "value") = none) :
    isBlank (some value) = true ↔ value.HoldsNothing := by
  have hitself : value.resource? = some value := by rw [Value.resource?, h]
  rw [isBlank, resource?, Option.bind_some, hitself]
  exact Value.isEmpty_iff

/-- Of a mapping with a member `value` only that member is looked at. -/
theorem isBlank_of_get? {value inner : Value} {members : Members}
    (hmembers : value.members? = some members) (hinner : members.get? "value" = some inner) :
    isBlank (some value) = true ↔ inner = .null ∨ inner.HoldsNothing := by
  have hmember : value.members?.bind (Members.get? · "value") = some inner := by
    rw [hmembers, Option.bind_some, hinner]
  by_cases hnull : inner = .null
  · have hnothing : value.resource? = none := by rw [Value.resource?, hmember, hnull]
    rw [isBlank, resource?, Option.bind_some, hnothing]
    exact iff_of_true rfl (.inl hnull)
  · have hresource : value.resource? = some inner := by
      rw [Value.resource?, hmember]
      split
      · next hsome => exact absurd (Option.some.inj hsome) hnull
      · next hsome => exact hsome.symm
      · next hnone => exact nomatch hnone
    rw [isBlank, resource?, Option.bind_some, hresource, or_iff_right hnull]
    exact Value.isEmpty_iff

/-- A value is blank when it holds nothing or refers to nothing. -/
theorem isBlank_some_iff {value : Value} :
    isBlank (some value) = true ↔ value.HoldsNothing ∨ value.RefersToNothing := by
  cases hmember : value.members?.bind (Members.get? · "value") with
  | none =>
    have hrefers : ¬ value.RefersToNothing := by
      rintro ⟨members, inner, hmembers, hinner, -⟩
      rw [hmembers, Option.bind_some, hinner] at hmember
      exact nomatch hmember
    rw [isBlank_of_none hmember, or_iff_left hrefers]
  | some inner =>
    obtain ⟨members, hmembers, hinner⟩ := Option.bind_eq_some_iff.1 hmember
    rw [isBlank_of_get? hmembers hinner,
      or_iff_right (Value.not_holdsNothing_of_get? hmembers hinner),
      Value.refersToNothing_iff_of_get? hmembers hinner]

/-- **When a parameter is blank**: it is absent or null, holds nothing, or refers to nothing. -/
theorem isBlank_param?_iff {params : Members} {key : String} :
    isBlank (params.param? key) = true ↔ params.IsBlankAt key := by
  cases hfound : params.get? key with
  | none =>
    have habsent : params.param? key = none := by rw [Members.param?, hfound]
    rw [habsent]
    exact iff_of_true rfl (.inl hfound)
  | some value =>
    have hsame : params.IsBlankAt key
        ↔ value = .null ∨ value.HoldsNothing ∨ value.RefersToNothing := by
      simp [Members.IsBlankAt, hfound]
    rw [hsame]
    by_cases hnull : value = .null
    · subst hnull
      have habsent : params.param? key = none := by rw [Members.param?, hfound]
      rw [habsent]
      exact iff_of_true rfl (.inl rfl)
    · have hpresent : params.param? key = some value :=
        Members.param?_eq_some_iff.2 ⟨hfound, hnull⟩
      rw [hpresent, isBlank_some_iff, or_iff_right hnull]

end Param

end FlowLint
