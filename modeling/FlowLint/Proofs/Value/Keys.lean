import FlowLint.Value.Basic

/-!
# Keys of mappings

A mapping holds no key twice. The values that the readers give are such, down to their last part,
and looking a text up in one and reading it through are the same.

* **`Scalar.sameKey_comm`**: being one key is mutual.
* **`Members.mem_texts_iff`**, **`Members.filter_flatMap_texts`**: looking up and reading through.
* **`Members.distinct_set`**: setting a member adds no key that is there.
* **`Members.keysNotText_ofPairs`**: keys that are no texts are not lost when pairs are set.
* **`Value.Keyed`**: no mapping in a value holds a key twice. The parts of such a value are such,
  also where a value that contains itself is opened (`Keyed.members?`, `Keyed.items?`).
-/

namespace FlowLint

/-! ## Keys -/

/-- Two numbers are the same when both are zero, or when they are equal and no nan. -/
theorem Binary64.same_iff (x y : Binary64) :
    x.same y = true
      ↔ ((∃ negative e, x = .finite negative 0 e) ∧ ∃ negative e, y = .finite negative 0 e)
        ∨ (x = y ∧ x ≠ .nan) := by
  unfold Binary64.same
  split
  · simp
  · simp
  · next hnan hzero =>
    rw [beq_iff_eq]
    constructor
    · exact fun heq => .inr ⟨heq, hnan⟩
    · rintro (⟨⟨negative, e, hx⟩, negative', e', hy⟩ | ⟨heq, -⟩)
      · exact absurd hy (hzero _ _ _ _ hx)
      · exact heq

theorem Binary64.same_comm (x y : Binary64) : x.same y = y.same x := by
  rw [Bool.eq_iff_iff, same_iff, same_iff, and_comm]
  refine or_congr_right ⟨?_, ?_⟩
  · rintro ⟨rfl, hnan⟩
    exact ⟨rfl, hnan⟩
  · rintro ⟨rfl, hnan⟩
    exact ⟨rfl, hnan⟩

theorem Timestamp.same_comm (t u : Timestamp) : t.same u = u.same t := by
  unfold Timestamp.same
  split
  · exact BEq.comm
  · next hnot =>
    split
    · next d c offset d' c' offset' => exact absurd rfl (hnot d' c' offset' d c offset rfl)
    · exact BEq.comm

theorem Number.same_comm (x y : Number) : x.same y = y.same x := by
  cases x <;> cases y <;> simp [Number.same, Binary64.same_comm, BEq.comm]

/-- **Being one key is mutual.** -/
theorem Scalar.sameKey_comm (a b : Scalar) : a.sameKey b = b.sameKey a := by
  unfold Scalar.sameKey
  cases a.keyNumber? with
  | some x =>
    cases b.keyNumber? with
    | some y => exact x.same_comm y
    | none => rfl
  | none =>
    cases b.keyNumber? with
    | some y => rfl
    | none => cases a <;> cases b <;> simp [Timestamp.same_comm, BEq.comm]

/-! ## Mappings -/

namespace Members

/-- No two members have one key. -/
def Distinct (members : Members) : Prop :=
  members.Pairwise fun a b => a.1.sameKey b.1 = false

instance (members : Members) : Decidable members.Distinct :=
  inferInstanceAs (Decidable (members.Pairwise _))

/-- The members under texts, each with its text. -/
def texts (members : Members) : List (String × Value) :=
  members.filterMap fun member =>
    match member.1 with
    | .text name => some (name, member.2)
    | _ => none

@[simp] theorem texts_nil : texts [] = [] := rfl

theorem texts_cons_text (name : String) (value : Value) (rest : Members) :
    texts ((.text name, value) :: rest) = (name, value) :: texts rest := rfl

theorem texts_cons_of_not_text {key : Scalar} (value : Value) (rest : Members)
    (h : ∀ name, key ≠ .text name) : texts ((key, value) :: rest) = texts rest := by
  cases key with
  | text name => exact absurd rfl (h name)
  | _ => rfl

theorem get?_eq_none_of_distinct {name : String} {value : Value} {rest : Members}
    (h : Distinct ((.text name, value) :: rest)) : rest.get? name = none := by
  have hne : ∀ member ∈ rest, Scalar.sameKey (.text name) member.1 = false :=
    (List.pairwise_cons.1 h).1
  rw [get?, Option.map_eq_none_iff, List.find?_eq_none]
  intro member hmem hkey
  have hsame : Scalar.sameKey (.text name) member.1 = true :=
    (Scalar.text_sameKey_iff name member.1).2 (beq_iff_eq.1 hkey)
  rw [hne member hmem] at hsame
  exact Bool.noConfusion hsame

/-- Reading through a mapping and looking up a text are the same. -/
theorem mem_texts_iff {members : Members} (h : members.Distinct) (name : String) (value : Value) :
    (name, value) ∈ members.texts ↔ members.get? name = some value := by
  induction members with
  | nil => simp
  | cons member rest ih =>
    obtain ⟨key, first⟩ := member
    have hrest : Distinct rest := (List.pairwise_cons.1 h).2
    by_cases hkey : ∃ other, key = .text other
    · obtain ⟨other, rfl⟩ := hkey
      rw [texts_cons_text, List.mem_cons, ih hrest, get?_cons]
      by_cases ho : other = name
      -- the member is found, and behind it there is no other of its text
      · subst ho
        rw [get?_eq_none_of_distinct h]
        simp [eq_comm]
      · have hno : (Scalar.text other = .text name) = False := by simpa using ho
        simp [hno, Ne.symm ho]
    · have hnot : ∀ other, key ≠ .text other := fun other he => hkey ⟨other, he⟩
      rw [texts_cons_of_not_text first rest hnot, ih hrest, get?_cons, if_neg (hnot name)]

/-- What is made from the members of a mapping and marked with their texts: the part marked with one
text is made from the member under it. -/
theorem filter_flatMap_texts {β : Type} {members : Members} (h : members.Distinct)
    (make : String → Value → List β) (mark : β → String)
    (marked : ∀ name value, ∀ x ∈ make name value, mark x = name) (name : String) :
    (members.texts.flatMap fun member => make member.1 member.2).filter (mark · == name)
      = ((members.get? name).map (make name)).getD [] := by
  induction members with
  | nil => rfl
  | cons member rest ih =>
    obtain ⟨key, first⟩ := member
    have ih := ih (List.pairwise_cons.1 h).2
    by_cases hkey : ∃ other, key = .text other
    · obtain ⟨other, rfl⟩ := hkey
      rw [texts_cons_text, List.flatMap_cons, List.filter_append, ih, get?_cons]
      by_cases ho : other = name
      · subst ho
        -- the member is there: all it makes stays, and nothing behind it has its text
        have hall : ∀ x ∈ make other first, (mark x == other) = true := fun x hx =>
          beq_iff_eq.2 (marked other first x hx)
        rw [List.filter_eq_self.2 hall, get?_eq_none_of_distinct h]
        simp
      · have hnone : (make other first).filter (mark · == name) = [] := by
          rw [List.filter_eq_nil_iff]
          intro x hx hmark
          exact ho ((marked other first x hx).symm.trans (beq_iff_eq.1 hmark))
        rw [hnone, List.nil_append, if_neg (by simpa using ho)]
    · have hnot : ∀ other, key ≠ .text other := fun other he => hkey ⟨other, he⟩
      rw [texts_cons_of_not_text first rest hnot, ih, get?_cons, if_neg (hnot name)]

/-! ### Setting -/

/-- After a member is set, each key is that of the member or was there before. -/
theorem key_of_mem_set {key : Scalar} {value : Value} {members : Members} {member : Scalar × Value}
    (h : member ∈ set key value members) :
    member.1 = key ∨ ∃ old ∈ members, old.1 = member.1 := by
  induction members with
  | nil =>
    rw [set, List.mem_singleton] at h
    exact .inl (h ▸ rfl)
  | cons first rest ih =>
    obtain ⟨k, v⟩ := first
    by_cases hk : k.sameKey key = true
    · rw [set, if_pos hk, List.mem_cons] at h
      rcases h with rfl | h
      · exact .inr ⟨(k, v), List.mem_cons_self, rfl⟩
      · exact .inr ⟨member, List.mem_cons_of_mem _ h, rfl⟩
    · rw [set, if_neg hk, List.mem_cons] at h
      rcases h with rfl | h
      · exact .inr ⟨(k, v), List.mem_cons_self, rfl⟩
      · rcases ih h with hkey | ⟨old, hold, hkey⟩
        · exact .inl hkey
        · exact .inr ⟨old, List.mem_cons_of_mem _ hold, hkey⟩

/-- After a member is set, each value is the one that was set or was there before. -/
theorem value_of_mem_set {key : Scalar} {value : Value} {members : Members}
    {member : Scalar × Value} (h : member ∈ set key value members) :
    member.2 = value ∨ member ∈ members := by
  induction members with
  | nil =>
    rw [set, List.mem_singleton] at h
    exact .inl (h ▸ rfl)
  | cons first rest ih =>
    obtain ⟨k, v⟩ := first
    by_cases hk : k.sameKey key = true
    · rw [set, if_pos hk, List.mem_cons] at h
      rcases h with rfl | h
      · exact .inl rfl
      · exact .inr (List.mem_cons_of_mem _ h)
    · rw [set, if_neg hk, List.mem_cons] at h
      rcases h with rfl | h
      · exact .inr List.mem_cons_self
      · exact (ih h).imp_right (List.mem_cons_of_mem _)

/-- Setting keeps the keys distinct: a key that is there is not added again. -/
theorem distinct_set {key : Scalar} {value : Value} {members : Members} (h : members.Distinct) :
    (set key value members).Distinct := by
  induction members with
  | nil => exact List.pairwise_singleton _ _
  | cons first rest ih =>
    obtain ⟨k, v⟩ := first
    obtain ⟨hfirst, hrest⟩ := List.pairwise_cons.1 h
    by_cases hk : k.sameKey key = true
    · rw [set, if_pos hk]
      exact List.pairwise_cons.2 ⟨hfirst, hrest⟩
    · rw [set, if_neg hk]
      refine List.pairwise_cons.2 ⟨fun member hmem => ?_, ih hrest⟩
      rcases key_of_mem_set hmem with hkey | ⟨old, hold, hkey⟩
      · rw [hkey]
        exact Bool.eq_false_iff.2 hk
      · exact hkey ▸ hfirst old hold

/-! ### Keys that are no texts -/

theorem keysNotText_cons_text (name : String) (value : Value) (rest : Members) :
    keysNotText ((.text name, value) :: rest) = keysNotText rest := rfl

theorem keysNotText_cons_of_not_text {key : Scalar} (value : Value) (rest : Members)
    (h : ∀ name, key ≠ .text name) :
    keysNotText ((key, value) :: rest) = key :: keysNotText rest := by
  cases key with
  | text name => exact absurd rfl (h name)
  | _ => rfl

theorem mem_keysNotText_iff {members : Members} {key : Scalar} :
    key ∈ members.keysNotText ↔ key ∈ members.map (·.1) ∧ ∀ name, key ≠ .text name := by
  rw [keysNotText, List.mem_filter]
  refine and_congr_right fun _ => ?_
  cases key <;> simp

theorem pairwise_keysNotText {members : Members} (h : members.Distinct) :
    members.keysNotText.Pairwise fun a b => a.sameKey b = false := by
  have hkeys : (members.map (·.1)).Pairwise fun a b => a.sameKey b = false := List.pairwise_map.2 h
  exact hkeys.filter _

/-- Setting a text changes no other keys. -/
theorem keysNotText_set_text (name : String) (value : Value) (members : Members) :
    keysNotText (set (.text name) value members) = keysNotText members := by
  induction members with
  | nil => rfl
  | cons member rest ih =>
    obtain ⟨key, old⟩ := member
    by_cases hsame : key.sameKey (.text name) = true
    · rw [set, if_pos hsame, (Scalar.sameKey_text_iff key name).1 hsame]
      rfl
    · rw [set, if_neg hsame]
      by_cases hkey : ∃ other, key = .text other
      · obtain ⟨other, rfl⟩ := hkey
        rw [keysNotText_cons_text, keysNotText_cons_text, ih]
      · have hnot : ∀ other, key ≠ .text other := fun other he => hkey ⟨other, he⟩
        rw [keysNotText_cons_of_not_text _ _ hnot, keysNotText_cons_of_not_text _ _ hnot, ih]

/-- A new key that is no text goes behind the others. -/
theorem keysNotText_set_of_new {key : Scalar} (hkey : ∀ name, key ≠ .text name) (value : Value)
    {members : Members} (h : ∀ other ∈ members.keysNotText, other.sameKey key = false) :
    keysNotText (set key value members) = keysNotText members ++ [key] := by
  induction members with
  | nil => rw [set, keysNotText_cons_of_not_text value [] hkey]; rfl
  | cons member rest ih =>
    obtain ⟨first, old⟩ := member
    by_cases hfirst : ∃ name, first = .text name
    · obtain ⟨name, rfl⟩ := hfirst
      have hother : ¬ Scalar.sameKey (.text name) key = true := fun hsame =>
        hkey name ((Scalar.text_sameKey_iff name key).1 hsame)
      rw [set, if_neg hother, keysNotText_cons_text, keysNotText_cons_text]
      exact ih h
    · have hnot : ∀ name, first ≠ .text name := fun name he => hfirst ⟨name, he⟩
      rw [keysNotText_cons_of_not_text old rest hnot] at h ⊢
      obtain ⟨hother, hrest⟩ := List.forall_mem_cons.1 h
      rw [set, if_neg (Bool.eq_false_iff.1 hother), keysNotText_cons_of_not_text old _ hnot,
        ih hrest, List.cons_append]

/-- Setting pairs one after the other keeps all keys that are no texts, if they are distinct. -/
theorem keysNotText_ofPairs {pairs : Members}
    (h : pairs.keysNotText.Pairwise fun a b => a.sameKey b = false) :
    keysNotText (ofPairs pairs) = keysNotText pairs := by
  -- the members so far stand in front, and their keys are distinct from those to come
  have hrun : ∀ members : Members,
      (members.keysNotText ++ pairs.keysNotText).Pairwise (fun a b => a.sameKey b = false) →
      keysNotText (pairs.foldl (fun members pair => set pair.1 pair.2 members) members)
        = members.keysNotText ++ pairs.keysNotText := by
    clear h
    induction pairs with
    | nil => exact fun members _ => (List.append_nil _).symm
    | cons pair rest ih =>
      obtain ⟨key, value⟩ := pair
      intro members hdistinct
      rw [List.foldl_cons]
      by_cases hkey : ∃ name, key = .text name
      · obtain ⟨name, rfl⟩ := hkey
        rw [keysNotText_cons_text] at hdistinct ⊢
        rw [ih _ (by rwa [keysNotText_set_text]), keysNotText_set_text]
      · have hnot : ∀ name, key ≠ .text name := fun name he => hkey ⟨name, he⟩
        rw [keysNotText_cons_of_not_text value rest hnot] at hdistinct ⊢
        have hnew : ∀ other ∈ members.keysNotText, other.sameKey key = false := fun other hother =>
          (List.pairwise_append.1 hdistinct).2.2 other hother key List.mem_cons_self
        have hset := keysNotText_set_of_new hnot value hnew
        rw [ih _ (by rwa [hset, List.append_assoc]), hset, List.append_assoc]
        rfl
  exact hrun [] h

end Members

/-! ## Values -/

/-- No mapping in the value holds a key twice. -/
inductive Value.Keyed : Value → Prop
  | scalar (s : Scalar) : Keyed (.scalar s)
  | list {items : List Value} (keyed : ∀ item ∈ items, item.Keyed) : Keyed (.list items)
  | map {members : Members} (distinct : members.Distinct)
      (keyed : ∀ member ∈ members, member.2.Keyed) : Keyed (.map members)
  | pair {first second : Value} (first_keyed : first.Keyed) (second_keyed : second.Keyed) :
      Keyed (.pair first second)
  | set (members : List Scalar) : Keyed (.set members)
  | knot {number : Nat} {body : Value} (keyed : body.Keyed) : Keyed (.knot number body)
  | back (number : Nat) : Keyed (.back number)

namespace Value

theorem tieItems_eq_map (number : Nat) (whole : Value) (items : List Value) :
    tieItems number whole items = items.map (tie number whole) := by
  induction items with
  | nil => rfl
  | cons item rest ih => rw [tieItems, ih, List.map_cons]

theorem tieMembers_eq_map (number : Nat) (whole : Value) (members : Members) :
    tieMembers number whole members
      = members.map fun member => (member.1, tie number whole member.2) := by
  induction members with
  | nil => rfl
  | cons member rest ih => rw [tieMembers, ih, List.map_cons]

namespace Keyed

variable {v whole value : Value} {members : Members}

theorem map_set (hvalue : value.Keyed) (key : Scalar) (h : Keyed (.map members)) :
    Keyed (.map (members.set key value)) := by
  cases h with
  | map distinct keyed =>
    refine .map (Members.distinct_set distinct) fun member hmem => ?_
    rcases Members.value_of_mem_set hmem with hnew | hold
    · exact hnew ▸ hvalue
    · exact keyed member hold

/-- Setting keyed values one after the other makes a keyed mapping. -/
theorem map_ofPairs {pairs : List (Scalar × Value)} (h : ∀ pair ∈ pairs, pair.2.Keyed) :
    Keyed (.map (Members.ofPairs pairs)) := by
  have hrun : ∀ members, Keyed (.map members) →
      Keyed (.map
        (pairs.foldl (fun members pair => Members.set pair.1 pair.2 members) members)) := by
    induction pairs with
    | nil => exact fun _ hmembers => hmembers
    | cons pair rest ih =>
      obtain ⟨hpair, hrest⟩ := List.forall_mem_cons.1 h
      intro members hmembers
      exact ih hrest _ (hpair.map_set pair.1 hmembers)
  exact hrun [] (.map .nil (by simp))

/-- Putting a keyed whole in the places that go back to it changes no keys. -/
theorem tie (number : Nat) (hwhole : whole.Keyed) (h : v.Keyed) :
    (Value.tie number whole v).Keyed := by
  induction h with
  | scalar s =>
    rw [Value.tie]
    exact .scalar s
  | list _ ih =>
    rw [Value.tie, tieItems_eq_map]
    refine .list fun item hmem => ?_
    obtain ⟨old, hold, rfl⟩ := List.mem_map.1 hmem
    exact ih old hold
  | map distinct _ ih =>
    rw [Value.tie, tieMembers_eq_map]
    refine .map (List.pairwise_map.2 distinct) fun member hmem => ?_
    obtain ⟨old, hold, rfl⟩ := List.mem_map.1 hmem
    exact ih old hold
  | pair _ _ ihFirst ihSecond =>
    rw [Value.tie]
    exact .pair ihFirst ihSecond
  | set members =>
    rw [Value.tie]
    exact .set members
  | knot keyed ih =>
    rw [Value.tie]
    -- a knot of the same number inside hides the outer one
    split
    · exact .knot keyed
    · exact .knot ih
  | back other =>
    rw [Value.tie]
    split
    · exact hwhole
    · exact .back other

theorem unfold (h : v.Keyed) : v.unfold.Keyed := by
  cases h with
  | knot keyed => exact tie _ (.knot keyed) keyed
  | _ => constructor <;> assumption

/-- The members of a keyed value make a keyed mapping. -/
theorem members? (h : v.Keyed) (hmembers : v.members? = some members) : Keyed (.map members) := by
  have hopen := h.unfold
  rw [Value.members?] at hmembers
  split at hmembers
  · next found hfound =>
    cases hmembers
    exact hfound ▸ hopen
  · exact nomatch hmembers

/-- The items of a keyed value are keyed. -/
theorem items? (h : v.Keyed) {items : List Value} (hitems : v.items? = some items) :
    ∀ item ∈ items, item.Keyed := by
  have hopen := h.unfold
  rw [Value.items?] at hitems
  split at hitems
  · next found hfound =>
    cases hitems
    rw [hfound] at hopen
    cases hopen with
    | list keyed => exact keyed
  · exact nomatch hitems

theorem distinct (h : Keyed (.map members)) : members.Distinct := by
  cases h with
  | map distinct _ => exact distinct

theorem of_mem (h : Keyed (.map members)) {member : Scalar × Value} (hmem : member ∈ members) :
    member.2.Keyed := by
  cases h with
  | map _ keyed => exact keyed member hmem

/-- What a keyed mapping holds under a text is keyed. -/
theorem get? (h : Keyed (.map members)) {key : String} (hget : members.get? key = some value) :
    value.Keyed := by
  rw [Members.get?, Option.map_eq_some_iff] at hget
  obtain ⟨member, hfind, rfl⟩ := hget
  exact h.of_mem (List.mem_of_find?_eq_some hfind)

end Keyed

end Value

end FlowLint
