import Mathlib.Data.List.Forall2

/-!
# Outcomes of steps

A computation that can fail is taken apart at its steps. A sequence of two steps succeeds when both
do, and it fails with the fault of the first one that fails. A walk over a list, item by item, gives
all results or the fault of the first item that has one (`Outcome.walk_eq_ok_iff`,
`Outcome.walk_eq_error_iff`). Two computations are compared by their outcomes: related results, or
one and the same fault (`Outcome.Related`).
-/

namespace FlowLint.Outcome

variable {ε α β : Type}

theorem bind_eq_ok_iff {first : Except ε α} {next : α → Except ε β} {result : β} :
    first >>= next = .ok result ↔ ∃ value, first = .ok value ∧ next value = .ok result := by
  cases first <;> simp [bind, Except.bind]

theorem bind_eq_error_iff {first : Except ε α} {next : α → Except ε β} {fault : ε} :
    first >>= next = .error fault
      ↔ first = .error fault ∨ ∃ value, first = .ok value ∧ next value = .error fault := by
  cases first <;> simp [bind, Except.bind]

theorem map_eq_ok_iff {step : Except ε α} {f : α → β} {result : β} :
    step.map f = .ok result ↔ ∃ value, step = .ok value ∧ f value = result := by
  cases step <;> simp [Except.map]

theorem mapError_eq_ok_iff {ε' : Type} {step : Except ε α} {f : ε → ε'} {result : α} :
    step.mapError f = .ok result ↔ step = .ok result := by
  cases step <;> simp [Except.mapError]

/-- Every outcome is a result or a fault. -/
theorem ok_or_error (step : Except ε α) :
    (∃ value, step = .ok value) ∨ ∃ fault, step = .error fault := by
  cases step with
  | ok value => exact .inl ⟨value, rfl⟩
  | error fault => exact .inr ⟨fault, rfl⟩

/-! ## Related outcomes -/

/-- Two outcomes are related: both are results, which are related, or both are the same fault. -/
inductive Related (R : α → β → Prop) : Except ε α → Except ε β → Prop
  | ok {result : α} {other : β} (related : R result other) : Related R (.ok result) (.ok other)
  | error (fault : ε) : Related R (.error fault) (.error fault)

/-- Outcomes are related when one is made from the other by a function that relates. -/
theorem related_map {R : α → β → Prop} {f : α → β} (hf : ∀ result, R result (f result))
    (step : Except ε α) : Related R step (step.map f) := by
  cases step with
  | ok result => exact .ok (hf result)
  | error fault => exact .error fault

theorem Related.mono {R S : α → β → Prop} {step : Except ε α} {step' : Except ε β}
    (hS : ∀ result other, R result other → S result other) (h : Related R step step') :
    Related S step step' := by
  cases h with
  | ok related => exact .ok (hS _ _ related)
  | error fault => exact .error fault

/-- What is done next with related results keeps the outcomes related. -/
theorem Related.bind {γ δ : Type} {R : α → β → Prop} {S : γ → δ → Prop} {first : Except ε α}
    {first' : Except ε β} {next : α → Except ε γ} {next' : β → Except ε δ}
    (h : Related R first first')
    (hnext : ∀ result other, R result other → Related S (next result) (next' other)) :
    Related S (first >>= next) (first' >>= next') := by
  cases h with
  | ok related => exact hnext _ _ related
  | error fault => exact .error fault

/-! ## Related lists -/

/-- A list and its image are related when items and their images are. -/
theorem forall₂_map {R : α → β → Prop} {f : α → β} (hf : ∀ item, R item (f item))
    (items : List α) : List.Forall₂ R items (items.map f) :=
  List.forall₂_map_right_iff.2 (List.forall₂_same.2 fun item _ => hf item)

/-- To an item on the left belongs one on the right. -/
theorem exists_of_mem_left {R : α → β → Prop} {left : List α} {right : List β}
    (h : List.Forall₂ R left right) {item : α} (hmem : item ∈ left) :
    ∃ other ∈ right, R item other := by
  induction h with
  | nil => exact absurd hmem (List.not_mem_nil)
  | cons hfirst _ ih =>
    rcases List.mem_cons.1 hmem with rfl | hmem
    · exact ⟨_, List.mem_cons_self, hfirst⟩
    · obtain ⟨other, hother, hrel⟩ := ih hmem
      exact ⟨other, List.mem_cons_of_mem _ hother, hrel⟩

theorem exists_of_mem_right {R : α → β → Prop} {left : List α} {right : List β}
    (h : List.Forall₂ R left right) {other : β} (hmem : other ∈ right) :
    ∃ item ∈ left, R item other :=
  exists_of_mem_left h.flip hmem

/-- To an item on the left belongs the one on the right at its position. -/
theorem exists_getElem?_left {R : α → β → Prop} {left : List α} {right : List β}
    (h : List.Forall₂ R left right) {position : Nat} {item : α}
    (hitem : left[position]? = some item) :
    ∃ other, right[position]? = some other ∧ R item other := by
  induction h generalizing position with
  | nil => exact nomatch hitem
  | cons hfirst _ ih =>
    cases position with
    | zero =>
      cases hitem
      exact ⟨_, rfl, hfirst⟩
    | succ position => exact ih hitem

theorem exists_getElem?_right {R : α → β → Prop} {left : List α} {right : List β}
    (h : List.Forall₂ R left right) {position : Nat} {other : β}
    (hother : right[position]? = some other) : ∃ item, left[position]? = some item ∧ R item other :=
  exists_getElem?_left h.flip hother

/-! ## Walks -/

/-- The results of a step for the items of a list, or the fault of the first item that has one. -/
def walk (step : α → Except ε β) : List α → Except ε (List β)
  | [] => .ok []
  | item :: rest => do
    let result ← step item
    return result :: (← walk step rest)

/-- A walk gives one result for each item, in their order. -/
theorem walk_eq_ok_iff {step : α → Except ε β} {items : List α} {results : List β} :
    walk step items = .ok results
      ↔ List.Forall₂ (fun item result => step item = .ok result) items results := by
  induction items generalizing results with
  | nil => simp [walk, eq_comm]
  | cons item rest ih =>
    rw [walk, bind_eq_ok_iff]
    constructor
    · rintro ⟨first, hfirst, hrest⟩
      obtain ⟨others, hothers, hresults⟩ := bind_eq_ok_iff.1 hrest
      cases hresults
      exact .cons hfirst (ih.1 hothers)
    · intro h
      cases h with
      | cons hfirst hrest => exact ⟨_, hfirst, bind_eq_ok_iff.2 ⟨_, ih.2 hrest, rfl⟩⟩

/-- A walk fails with the fault of the first item that has one. -/
theorem walk_eq_error_iff {step : α → Except ε β} {items : List α} {fault : ε} :
    walk step items = .error fault
      ↔ ∃ before item after, items = before ++ item :: after
          ∧ (∀ other ∈ before, ∃ result, step other = .ok result)
          ∧ step item = .error fault := by
  induction items with
  | nil => simp [walk]
  | cons first rest ih =>
    rw [walk, bind_eq_error_iff]
    constructor
    · rintro (hfirst | ⟨result, hfirst, hrest⟩)
      -- the head fails, or a later item does and the head is before it
      · exact ⟨[], first, rest, rfl, by simp, hfirst⟩
      · rcases bind_eq_error_iff.1 hrest with hwalk | ⟨others, -, hpure⟩
        · obtain ⟨before, item, after, hitems, hbefore, hitem⟩ := ih.1 hwalk
          refine ⟨first :: before, item, after, by rw [hitems, List.cons_append], ?_, hitem⟩
          intro other hother
          rcases List.mem_cons.1 hother with rfl | hother
          · exact ⟨result, hfirst⟩
          · exact hbefore other hother
        · exact nomatch hpure
    · rintro ⟨before, item, after, hitems, hbefore, hitem⟩
      cases before with
      | nil =>
        cases hitems
        exact .inl hitem
      | cons head before =>
        cases hitems
        obtain ⟨result, hresult⟩ := hbefore _ List.mem_cons_self
        refine .inr ⟨result, hresult, bind_eq_error_iff.2 (.inl (ih.2 ?_))⟩
        exact ⟨before, item, after, rfl,
          fun other hother => hbefore other (List.mem_cons_of_mem _ hother), hitem⟩

theorem exists_walk_eq_ok_iff {step : α → Except ε β} {items : List α} :
    (∃ results, walk step items = .ok results)
      ↔ ∀ item ∈ items, ∃ result, step item = .ok result := by
  constructor
  · rintro ⟨results, hwalk⟩ item hitem
    obtain ⟨result, -, hresult⟩ := exists_of_mem_left (walk_eq_ok_iff.1 hwalk) hitem
    exact ⟨result, hresult⟩
  · intro h
    rcases ok_or_error (walk step items) with hok | ⟨fault, hfault⟩
    · exact hok
    · obtain ⟨before, item, after, hitems, -, hitem⟩ := walk_eq_error_iff.1 hfault
      obtain ⟨result, hresult⟩ := h item (by rw [hitems]; simp)
      rw [hitem] at hresult
      exact nomatch hresult

theorem mapM_eq_walk (step : α → Except ε β) (items : List α) :
    items.mapM step = walk step items := by
  induction items with
  | nil => rfl
  | cons item rest ih => rw [List.mapM_cons, ih, walk]

end FlowLint.Outcome
