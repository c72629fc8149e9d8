import FlowLint.Proofs.Outcome
import Mathlib.Algebra.GroupWithZero.Nat
import Mathlib.Logic.Relation

/-!
# A pool of workers

One task for each item of a list is handed to a pool. A worker that is free starts any task that
waits, and a task that was started stores its outcome in its slot when it comes to its end, in
whichever order that happens. Meanwhile the caller collects the slots in the order of the items. It
ends with all results, or with the first fault that it meets, and after a fault the tasks that still
wait may be cancelled.

* **`Pool.Step`**: what can happen next, and `Pool.Reaches` what can have happened so far.
* **`Pool.sound_of_reaches`**: whatever has happened, the slots hold outcomes of their own tasks,
  and the caller what a walk over the items would have at that place.
* **`Pool.exists_complete`**: whatever has happened, the pool can come to its end, and no schedule
  goes on forever, since every step leaves less to do (`Pool.Step.work_lt`).
* **`Pool.maps_iff`**: so a pool gives what a walk gives.
-/

namespace FlowLint

namespace Pool

variable {ε α β : Type}

/-- The slot of a task. -/
inductive Slot (ε β : Type) where
  | waiting
  | started
  | stored (outcome : Except ε β)
  | cancelled

/-- The caller: it has collected the results of the first slots, or it has ended. -/
inductive Caller (ε β : Type) where
  | collecting (results : List β)
  | ended (outcome : Except ε (List β))

def Slot.isStarted : Slot ε β → Bool
  | .started => true
  | _ => false

/-- No worker will come back to this slot. -/
def Slot.isSettled : Slot ε β → Bool
  | .stored _ | .cancelled => true
  | .waiting | .started => false

end Pool

/-- A pool at work: the slots of the tasks, in the order of their items, and the caller. -/
structure Pool (ε β : Type) where
  slots : List (Pool.Slot ε β)
  caller : Pool.Caller ε β

namespace Pool

variable {ε α β : Type}

/-- A pool that was handed a task for each item. -/
def initial (items : List α) : Pool ε β where
  slots := items.map fun _ => .waiting
  caller := .collecting []

/-- What can happen next. -/
inductive Step (task : α → Except ε β) (items : List α) (workers : Nat) :
    Pool ε β → Pool ε β → Prop
  | start {slots : List (Slot ε β)} {caller : Caller ε β} {position : Nat}
      (waiting : slots[position]? = some .waiting)
      (free : slots.countP Slot.isStarted < workers) :
      Step task items workers ⟨slots, caller⟩ ⟨slots.set position .started, caller⟩
  | store {slots : List (Slot ε β)} {caller : Caller ε β} {position : Nat} {item : α}
      (started : slots[position]? = some .started) (item_eq : items[position]? = some item) :
      Step task items workers ⟨slots, caller⟩ ⟨slots.set position (.stored (task item)), caller⟩
  | collect {slots : List (Slot ε β)} {results : List β} {result : β}
      (stored : slots[results.length]? = some (.stored (.ok result))) :
      Step task items workers ⟨slots, .collecting results⟩
        ⟨slots, .collecting (results ++ [result])⟩
  | raise {slots : List (Slot ε β)} {results : List β} {fault : ε}
      (stored : slots[results.length]? = some (.stored (.error fault))) :
      Step task items workers ⟨slots, .collecting results⟩ ⟨slots, .ended (.error fault)⟩
  | finish {slots : List (Slot ε β)} {results : List β} (all : results.length = slots.length) :
      Step task items workers ⟨slots, .collecting results⟩ ⟨slots, .ended (.ok results)⟩
  | cancel {slots : List (Slot ε β)} {fault : ε} {position : Nat}
      (waiting : slots[position]? = some .waiting) :
      Step task items workers ⟨slots, .ended (.error fault)⟩
        ⟨slots.set position .cancelled, .ended (.error fault)⟩

/-- What can have happened after some steps. -/
def Reaches (task : α → Except ε β) (items : List α) (workers : Nat) :
    Pool ε β → Pool ε β → Prop :=
  Relation.ReflTransGen (Step task items workers)

/-- The schedule is complete: the caller has ended with an outcome, and no task is left. -/
structure Complete (pool : Pool ε β) (outcome : Except ε (List β)) : Prop where
  caller_eq : pool.caller = .ended outcome
  settled : ∀ slot ∈ pool.slots, slot.isSettled = true

/-- What a task over items can give. More than one worker and more than one item make a pool, which
gives what its complete schedules give, and otherwise the items are walked. -/
def Maps (task : α → Except ε β) (items : List α) (workers : Int)
    (outcome : Except ε (List β)) : Prop :=
  if 1 < workers ∧ 1 < items.length then
    ∃ pool, Reaches task items workers.toNat (initial items) pool ∧ pool.Complete outcome
  else Outcome.walk task items = outcome

/-! ## What every schedule keeps -/

/-- What the caller has is what a walk has when it has come as far. -/
def Caller.Agrees (task : α → Except ε β) (items : List α) : Caller ε β → Prop
  | .collecting results => Outcome.walk task (items.take results.length) = .ok results
  | .ended outcome => Outcome.walk task items = outcome

/-- Every slot holds the outcome of its own task, when it holds one, and the caller what a walk
has. No task is cancelled before the caller has ended. -/
structure Sound (task : α → Except ε β) (items : List α) (pool : Pool ε β) : Prop where
  length_eq : pool.slots.length = items.length
  stored : ∀ {position : Nat} {item : α} {outcome : Except ε β}, items[position]? = some item →
    pool.slots[position]? = some (.stored outcome) → task item = outcome
  agrees : pool.caller.Agrees task items
  kept : ∀ results, pool.caller = .collecting results → .cancelled ∉ pool.slots

variable {task : α → Except ε β} {items : List α} {workers : Nat} {pool pool' : Pool ε β}

theorem sound_initial : (initial items).Sound task items where
  length_eq := List.length_map _
  stored := by
    intro position item outcome hitem hslot
    rw [initial, List.getElem?_map, hitem] at hslot
    exact nomatch hslot
  agrees := rfl
  kept := by
    rintro results - hmem
    obtain ⟨item, -, hitem⟩ := List.mem_map.1 hmem
    exact nomatch hitem

/-- The slots stay sound when one of them changes to what its task may leave there. -/
theorem Sound.set {slots : List (Slot ε β)} {caller : Caller ε β}
    (h : (Pool.mk slots caller).Sound task items) {position : Nat} {slot : Slot ε β}
    (hstored : ∀ item outcome, items[position]? = some item → slot = .stored outcome →
      task item = outcome)
    (hkept : ∀ results, caller = .collecting results → slot ≠ .cancelled) :
    (Pool.mk (slots.set position slot) caller).Sound task items where
  length_eq := (List.length_set ..).trans h.length_eq
  stored := by
    intro other item outcome hitem hslot
    rw [List.getElem?_set] at hslot
    split at hslot
    · next hposition =>
      subst hposition
      split at hslot
      · exact hstored item outcome hitem (Option.some.inj hslot)
      · exact nomatch hslot
    · exact h.stored hitem hslot
  agrees := h.agrees
  kept := by
    intro results hcaller hmem
    rcases List.mem_or_eq_of_mem_set hmem with hmem | hslot
    · exact h.kept results hcaller hmem
    · exact hkept results hcaller hslot.symm

/-- The slot at which the caller stands belongs to the item at which its walk stands. -/
theorem Sound.exists_item {slots : List (Slot ε β)} {results : List β}
    (h : (Pool.mk slots (.collecting results)).Sound task items) {outcome : Except ε β}
    (hslot : slots[results.length]? = some (.stored outcome)) :
    ∃ item, items = items.take results.length ++ item :: items.drop (results.length + 1)
      ∧ items.take (results.length + 1) = items.take results.length ++ [item]
      ∧ task item = outcome := by
  have hlength : results.length < items.length := by
    rw [← h.length_eq]
    exact (List.getElem?_eq_some_iff.1 hslot).1
  refine ⟨items[results.length], ?_, ?_, ?_⟩
  · rw [← List.drop_eq_getElem_cons hlength, List.take_append_drop]
  · exact (List.take_append_getElem hlength).symm
  · exact h.stored (List.getElem?_eq_getElem hlength) hslot

/-- **One step keeps the pool sound.** -/
theorem Sound.step (h : pool.Sound task items) (hstep : Step task items workers pool pool') :
    pool'.Sound task items := by
  cases hstep with
  | start waiting free => exact h.set nofun nofun
  | @store slots caller position item started item_eq =>
    refine h.set ?_ nofun
    intro other outcome hother houtcome
    cases item_eq.symm.trans hother
    exact Slot.stored.inj houtcome
  | @collect slots results result stored =>
    obtain ⟨item, -, htake, htask⟩ := h.exists_item stored
    refine ⟨h.length_eq, h.stored, ?_, ?_⟩
    · have hdone := Outcome.walk_eq_ok_iff.1 h.agrees
      have hnext : List.Forall₂ (fun item result => task item = .ok result) [item] [result] :=
        .cons htask .nil
      show Outcome.walk task (items.take (results ++ [result]).length) = .ok (results ++ [result])
      rw [List.length_append, List.length_singleton, htake, Outcome.walk_eq_ok_iff]
      exact List.rel_append hdone hnext
    · rintro others -
      exact h.kept results rfl
  | @raise slots results fault stored =>
    obtain ⟨item, hitems, -, htask⟩ := h.exists_item stored
    refine ⟨h.length_eq, h.stored, ?_, nofun⟩
    -- the items before have results, so this is the first fault
    refine Outcome.walk_eq_error_iff.2 ⟨_, item, _, hitems, ?_, htask⟩
    exact Outcome.exists_walk_eq_ok_iff.1 ⟨results, h.agrees⟩
  | @finish slots results all =>
    refine ⟨h.length_eq, h.stored, ?_, nofun⟩
    have hall : items.take results.length = items :=
      List.take_of_length_le (Nat.le_of_eq (h.length_eq.symm.trans all.symm))
    have hagrees : Outcome.walk task (items.take results.length) = .ok results := h.agrees
    rwa [hall] at hagrees
  | cancel waiting => exact h.set nofun nofun

/-- **Every schedule keeps the pool sound.** -/
theorem Sound.reaches (h : pool.Sound task items)
    (hreaches : Reaches task items workers pool pool') :
    pool'.Sound task items := by
  induction hreaches with
  | refl => exact h
  | tail _ hstep ih => exact ih.step hstep

theorem sound_of_reaches (h : Reaches task items workers (initial items) pool) :
    pool.Sound task items :=
  sound_initial.reaches h

/-- A complete schedule gives what a walk gives. -/
theorem Complete.walk_eq {outcome : Except ε (List β)} (h : pool.Complete outcome)
    (hsound : pool.Sound task items) : Outcome.walk task items = outcome := by
  have hagrees := hsound.agrees
  rwa [h.caller_eq] at hagrees

/-! ## Coming to an end -/

/-- How many steps a slot has ahead. -/
def Slot.work : Slot ε β → Nat
  | .waiting => 2
  | .started => 1
  | .stored _ | .cancelled => 0

/-- How many steps the caller has ahead. -/
def Caller.work (count : Nat) : Caller ε β → Nat
  | .collecting results => count + 1 - results.length
  | .ended _ => 0

/-- A bound on the steps that are still to come. -/
def work (pool : Pool ε β) : Nat :=
  (pool.slots.map Slot.work).sum + pool.caller.work pool.slots.length

theorem sum_work_set {slots : List (Slot ε β)} {position : Nat} {old : Slot ε β}
    (h : slots[position]? = some old) (new : Slot ε β) :
    ((slots.set position new).map Slot.work).sum + old.work
      = (slots.map Slot.work).sum + new.work := by
  induction slots generalizing position with
  | nil => exact nomatch h
  | cons first rest ih =>
    cases position with
    | zero =>
      cases h
      rw [List.set_cons_zero, List.map_cons, List.map_cons, List.sum_cons, List.sum_cons]
      omega
    | succ position =>
      have hrest := @ih position h
      rw [List.set_cons_succ, List.map_cons, List.map_cons, List.sum_cons, List.sum_cons]
      omega

/-- A slot that changes to one with less ahead leaves less to do. -/
theorem work_set_lt {slots : List (Slot ε β)} {position : Nat} {old : Slot ε β}
    (h : slots[position]? = some old) (new : Slot ε β) (hless : new.work < old.work)
    (caller : Caller ε β) :
    (Pool.mk (slots.set position new) caller).work < (Pool.mk slots caller).work := by
  have hsum := sum_work_set h new
  show ((slots.set position new).map Slot.work).sum + caller.work (slots.set position new).length
    < (slots.map Slot.work).sum + caller.work slots.length
  rw [List.length_set]
  omega

/-- **Every step leaves less to do.** -/
theorem Step.work_lt (h : Step task items workers pool pool') : pool'.work < pool.work := by
  cases h with
  | start waiting free => exact work_set_lt waiting .started Nat.one_lt_two _
  | store started item_eq => exact work_set_lt started (.stored _) Nat.zero_lt_one _
  | @collect slots results result stored =>
    obtain ⟨hlength, -⟩ := List.getElem?_eq_some_iff.1 stored
    simp only [work, Caller.work, List.length_append, List.length_singleton]
    omega
  | @raise slots results fault stored =>
    obtain ⟨hlength, -⟩ := List.getElem?_eq_some_iff.1 stored
    simp only [work, Caller.work]
    omega
  | finish all =>
    simp only [work, Caller.work, all]
    omega
  | cancel waiting => exact work_set_lt waiting .cancelled Nat.two_pos _

/-- As long as a slot is not settled, a worker can do something. -/
theorem exists_step_of_unsettled {slots : List (Slot ε β)} {caller : Caller ε β}
    (hlength : slots.length = items.length) (hworkers : 0 < workers)
    (hopen : ∃ slot ∈ slots, slot.isSettled = false) :
    ∃ pool', Step task items workers ⟨slots, caller⟩ pool' := by
  by_cases hstarted : .started ∈ slots
  · -- a task that was started comes to its end
    obtain ⟨position, hslot⟩ := List.getElem?_of_mem hstarted
    have hposition : position < items.length := by
      rw [← hlength]
      exact (List.getElem?_eq_some_iff.1 hslot).1
    exact ⟨_, .store hslot (List.getElem?_eq_getElem hposition)⟩
  · -- all workers are free, and one of them starts the task of the slot
    have hfree : slots.countP Slot.isStarted = 0 := by
      rw [List.countP_eq_zero]
      intro slot hmem hisStarted
      cases slot with
      | started => exact hstarted hmem
      | _ => exact nomatch hisStarted
    obtain ⟨slot, hmem, hunsettled⟩ := hopen
    cases slot with
    | waiting =>
      obtain ⟨position, hslot⟩ := List.getElem?_of_mem hmem
      exact ⟨_, .start hslot (hfree ▸ hworkers)⟩
    | started => exact absurd hmem hstarted
    | _ => exact nomatch hunsettled

/-- When all slots are settled, a caller that collects can go on. -/
theorem Sound.exists_step_of_settled {slots : List (Slot ε β)} {results : List β}
    (h : (Pool.mk slots (.collecting results)).Sound task items)
    (hsettled : ∀ slot ∈ slots, slot.isSettled = true) :
    ∃ pool', Step task items workers ⟨slots, .collecting results⟩ pool' := by
  cases hslot : slots[results.length]? with
  | none =>
    have hbelow : slots.length ≤ results.length := List.getElem?_eq_none_iff.1 hslot
    have hcollected : (items.take results.length).length = results.length :=
      (Outcome.walk_eq_ok_iff.1 h.agrees).length_eq
    have habove : results.length ≤ slots.length := by
      rw [← hcollected, h.length_eq]
      exact List.length_take_le' _ _
    exact ⟨_, .finish (Nat.le_antisymm habove hbelow)⟩
  | some slot =>
    have hmem := List.mem_of_getElem? hslot
    cases slot with
    | waiting => exact nomatch hsettled _ hmem
    | started => exact nomatch hsettled _ hmem
    | cancelled => exact absurd hmem (h.kept results rfl)
    | stored outcome =>
      cases outcome with
      | ok result => exact ⟨_, .collect hslot⟩
      | error fault => exact ⟨_, .raise hslot⟩

/-- **No pool is stuck**: as long as its schedule is not complete there is a step. -/
theorem Sound.exists_step (h : pool.Sound task items) (hworkers : 0 < workers)
    (hopen : ¬ ∃ outcome, pool.Complete outcome) : ∃ pool', Step task items workers pool pool' := by
  obtain ⟨slots, caller⟩ := pool
  by_cases hsettled : ∀ slot ∈ slots, slot.isSettled = true
  · cases caller with
    | ended outcome => exact absurd ⟨outcome, rfl, hsettled⟩ hopen
    | collecting results => exact h.exists_step_of_settled hsettled
  · push Not at hsettled
    obtain ⟨slot, hmem, hslot⟩ := hsettled
    exact exists_step_of_unsettled h.length_eq hworkers ⟨slot, hmem, Bool.eq_false_iff.2 hslot⟩

/-- **Every schedule can be carried on to a complete one.** -/
theorem exists_complete (hworkers : 0 < workers) {pool : Pool ε β} (h : pool.Sound task items) :
    ∃ pool', Reaches task items workers pool pool' ∧ pool'.Complete (Outcome.walk task items) := by
  by_cases hcomplete : ∃ outcome, pool.Complete outcome
  · obtain ⟨outcome, houtcome⟩ := hcomplete
    refine ⟨pool, .refl, ?_⟩
    rwa [houtcome.walk_eq h]
  · obtain ⟨next, hstep⟩ := h.exists_step hworkers hcomplete
    have hless := hstep.work_lt
    obtain ⟨pool', hreaches, hend⟩ := exists_complete hworkers (h.step hstep)
    exact ⟨pool', .head hstep hreaches, hend⟩
termination_by pool.work

/-! ## What a pool gives -/

/-- **A pool gives what a walk gives**, with any count of workers, and it gives nothing else. -/
theorem maps_iff {workers : Int} {outcome : Except ε (List β)} :
    Maps task items workers outcome ↔ Outcome.walk task items = outcome := by
  unfold Maps
  split
  · next hpool =>
    constructor
    · rintro ⟨pool, hreaches, hcomplete⟩
      exact hcomplete.walk_eq (sound_of_reaches hreaches)
    · rintro rfl
      exact exists_complete (by omega) sound_initial
  · exact .rfl

end Pool

end FlowLint
