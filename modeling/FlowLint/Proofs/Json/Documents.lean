import FlowLint.Json.Reader
import FlowLint.Json.Writer
import FlowLint.Params
import FlowLint.Proofs.Outcome
import FlowLint.Proofs.Value.Keys

/-!
# JSON documents

The values that a JSON text states: scalars but dates and octets, lists, and mappings that hold
texts for keys and none of them twice. Their integers have decimal texts. What is read from a text
is such a value, and such a value can be written back, and shown in messages, when its collections
do not stand too deep inside one another.

* **`isJson_of_read`**: reading gives JSON values. One induction over the fuel carries the three
  readers of values, items and members, the values read so far being JSON values too.
* **`Value.depth`**: how many collections stand inside one another.
* **`IsJson.write_cases`**, **`IsJson.showFault?_eq`**: the depth alone decides whether a JSON value
  can be written and shown.
-/

namespace FlowLint

/-- A scalar that a JSON text states. -/
def Scalar.isJson : Scalar → Bool
  | .int n => FlowLint.isWritable n
  | .octets _ | .time _ => false
  | _ => true

/-- A value that a JSON text states. -/
inductive Value.IsJson : Value → Prop
  | scalar {s : Scalar} (json : s.isJson = true) : IsJson (.scalar s)
  | list {items : List Value} (json : ∀ item ∈ items, item.IsJson) : IsJson (.list items)
  | map {members : Members} (distinct : members.Distinct)
      (texts : ∀ member ∈ members, ∃ name, member.1 = .text name)
      (json : ∀ member ∈ members, member.2.IsJson) : IsJson (.map members)

/-- Setting a member of a JSON mapping to a JSON value. -/
theorem Value.IsJson.set {name : String} {value : Value} {members : Members}
    (hvalue : value.IsJson) (h : IsJson (.map members)) :
    IsJson (.map (members.set (.text name) value)) := by
  cases h with
  | map distinct texts json =>
    refine .map (Members.distinct_set distinct) ?_ ?_
    · intro member hmem
      rcases Members.key_of_mem_set hmem with hkey | ⟨old, hold, hkey⟩
      · exact ⟨name, hkey⟩
      · exact hkey ▸ texts old hold
    · intro member hmem
      rcases Members.value_of_mem_set hmem with hnew | hold
      · exact hnew ▸ hvalue
      · exact json member hold

/-! ## Reading -/

/-- A numeral is below the power of its base that its length gives, the part in front counted in. -/
theorem numeralFrom?_lt {cs : List Char} {high n : Nat} (h : numeralFrom? 10 high cs = some n) :
    n < (high + 1) * Nat.pow 10 cs.length := by
  induction cs generalizing high with
  | nil =>
    rw [numeralFrom?, Option.some.injEq] at h
    change n < (high + 1) * 1
    omega
  | cons c rest ih =>
    rw [numeralFrom?] at h
    split at h
    · next d hd =>
      have hdigit : d < 10 := by
        rw [digitOf?, Option.filter_eq_some_iff] at hd
        simpa using hd.2
      have hstep : high * 10 + d + 1 ≤ (high + 1) * 10 := by omega
      calc n < (high * 10 + d + 1) * Nat.pow 10 rest.length := ih h
        _ ≤ (high + 1) * 10 * Nat.pow 10 rest.length := Nat.mul_le_mul_right _ hstep
        _ = (high + 1) * Nat.pow 10 (c :: rest).length := by
          rw [List.length_cons, Nat.pow_eq, Nat.pow_eq, Nat.pow_succ', Nat.mul_assoc]
    · exact nomatch h

namespace Json

/-- The value of a text of at most so many digits is below that power of ten. -/
theorem digitsValue_lt {digits : List Char} {count : Nat} (h : digits.length ≤ count) :
    digitsValue digits < Nat.pow 10 count := by
  have hten : 0 < 10 := by decide
  refine Nat.lt_of_lt_of_le ?_ (Nat.pow_le_pow_right hten h)
  unfold digitsValue
  cases hn : numeralFrom? 10 0 digits with
  | none => exact Nat.pow_pos (by decide)
  | some n => simpa using numeralFrom?_lt hn

/-- An integer of no more digits than are read has a decimal text. -/
theorem isWritable_digitsValue {digits : List Char} (h : digits.length ≤ maxDigits)
    (negative : Bool) :
    isWritable (if negative then -(digitsValue digits : Int) else digitsValue digits) = true := by
  have habs : (if negative then -(digitsValue digits : Int) else digitsValue digits).natAbs
      = digitsValue digits := by
    cases negative <;> simp
  rw [isWritable, habs]
  exact decide_eq_true (digitsValue_lt h)

theorem isJson_of_number {cs rest : List Char} {s : Scalar} (h : number cs = .ok (s, rest)) :
    s.isJson = true := by
  unfold number at h
  dsimp only at h
  -- with a sign and without one
  split at h
  all_goals
    split at h
    · exact nomatch h
    · split at h
      · cases h
        rfl
      · split at h
        · split at h
          · exact nomatch h
          · next hcount =>
            cases h
            exact isWritable_digitsValue (Nat.le_of_not_lt hcount) _
        · cases h
          rfl

theorem isJson_of_scalar {cs rest : List Char} {s : Scalar} (h : scalar cs = .ok (s, rest)) :
    s.isJson = true := by
  unfold scalar at h
  split at h
  · next found hfound =>
    cases h
    -- every name stands for a scalar that is no integer
    have hliterals : ∀ literal ∈ literals, literal.2.isJson = true := by decide
    obtain ⟨literal, hmem, hliteral⟩ := List.exists_of_findSome?_eq_some hfound
    obtain ⟨after, -, hpair⟩ := Option.map_eq_some_iff.1 hliteral
    cases hpair
    exact hliterals literal hmem
  · exact isJson_of_number h

/-- **The readers give JSON values**, as long as those read so far are. -/
theorem isJson_of_readers (fuel : Nat) :
    (∀ depth cs v rest, value depth fuel cs = .ok (v, rest) → v.IsJson)
    ∧ (∀ depth done cs v rest, (∀ item ∈ done, Value.IsJson item) →
        items depth fuel done cs = .ok (v, rest) → v.IsJson)
    ∧ (∀ depth done cs v rest, Value.IsJson (.map done) →
        members depth fuel done cs = .ok (v, rest) → v.IsJson) := by
  induction fuel with
  | zero =>
    -- without fuel no reader gives anything
    refine ⟨?_, ?_, ?_⟩
    · intro depth cs v rest h
      exact nomatch h
    · intro depth done cs v rest _ h
      exact nomatch h
    · intro depth done cs v rest _ h
      exact nomatch h
  | succ fuel ih =>
    obtain ⟨ihValue, ihItems, ihMembers⟩ := ih
    refine ⟨?_, ?_, ?_⟩
    · intro depth cs v rest h
      have hempty : Value.IsJson (.map []) := .map .nil (by simp) (by simp)
      unfold value at h
      split at h
      -- a text, a mapping, a list, and everything else
      · obtain ⟨⟨s, after⟩, -, hs⟩ := Outcome.bind_eq_ok_iff.1 h
        cases hs
        exact .scalar rfl
      · split at h
        · exact nomatch h
        · split at h
          · cases h
            exact hempty
          · exact ihMembers _ _ _ _ _ hempty h
      · split at h
        · exact nomatch h
        · split at h
          · cases h
            exact .list (by simp)
          · exact ihItems _ _ _ _ _ (by simp) h
      · obtain ⟨⟨s, after⟩, hscalar, hs⟩ := Outcome.bind_eq_ok_iff.1 h
        cases hs
        exact .scalar (isJson_of_scalar hscalar)
    · intro depth done cs v rest hdone h
      unfold items at h
      obtain ⟨⟨item, after⟩, hitem, hnext⟩ := Outcome.bind_eq_ok_iff.1 h
      have hall : ∀ other ∈ item :: done, Value.IsJson other :=
        List.forall_mem_cons.2 ⟨ihValue _ _ _ _ hitem, hdone⟩
      dsimp only at hnext
      split at hnext
      · cases hnext
        exact .list fun other hother => hall other (List.mem_reverse.1 hother)
      · exact ihItems _ _ _ _ _ hall hnext
      · exact nomatch hnext
    · intro depth done cs v rest hdone h
      unfold members at h
      split at h
      · obtain ⟨⟨name, afterName⟩, -, hname⟩ := Outcome.bind_eq_ok_iff.1 h
        dsimp only at hname
        -- a member that is set keeps a mapping a JSON mapping, whether or not its name is new
        split at hname
        · obtain ⟨⟨member, after⟩, hmember, hnext⟩ := Outcome.bind_eq_ok_iff.1 hname
          have hset : Value.IsJson (.map (Members.set (.text name) member done)) :=
            (ihValue _ _ _ _ hmember).set hdone
          dsimp only at hnext
          split at hnext
          · cases hnext
            exact hset
          · exact ihMembers _ _ _ _ _ hset hnext
          · exact nomatch hnext
        · exact nomatch hname
      · exact nomatch h

/-- **What is read from a JSON text is a JSON value.** -/
theorem isJson_of_read {text : List Char} {v : Value} (h : read text = .ok v) : v.IsJson := by
  rw [read, Outcome.mapError_eq_ok_iff] at h
  unfold document at h
  split at h
  · exact nomatch h
  · obtain ⟨⟨result, after⟩, hvalue, hrest⟩ := Outcome.bind_eq_ok_iff.1 h
    dsimp only at hrest
    split at hrest
    · cases hrest
      exact (isJson_of_readers _).1 _ _ _ _ hvalue
    · exact nomatch hrest

end Json

/-! ## Depth -/

namespace Value

mutual

/-- How many collections stand inside one another in a value at most. -/
def depth : Value → Nat
  | .scalar _ | .back _ => 0
  | .list items => itemsDepth items + 1
  | .map members => membersDepth members + 1
  | .pair first second => max first.depth second.depth + 1
  | .set _ => 1
  | .knot _ body => body.depth

def itemsDepth : List Value → Nat
  | [] => 0
  | item :: rest => max item.depth (itemsDepth rest)

def membersDepth : List (Scalar × Value) → Nat
  | [] => 0
  | (_, value) :: rest => max value.depth (membersDepth rest)

end

theorem depth_of_number? {value : Value} {n : Number} (h : value.number? = some n) :
    value.depth = 0 := by
  cases value with
  | scalar s => rw [depth]
  | _ => exact nomatch h

theorem depth_of_text? {value : Value} {s : String} (h : value.text? = some s) :
    value.depth = 0 := by
  cases value with
  | scalar s => rw [depth]
  | _ => exact nomatch h

end Value

/-! ## Writing and showing -/

namespace Json

variable {around : List Nat} {room : Nat}

/-- What comes of a value that is written: its document when it is not deeper than there is room,
and else the fault that it is. -/
def DepthDecides {α : Type} (depth room : Nat) (outcome : Except WriteFault α) : Prop :=
  depth ≤ room ∧ (∃ result, outcome = .ok result) ∨ room < depth ∧ outcome = .error .tooDeep

theorem DepthDecides.ofItems {items : List Value}
    (h : ∀ item ∈ items, DepthDecides item.depth room (Document.ofValueIn around room item)) :
    DepthDecides (Value.itemsDepth items) room (Document.ofItems around room items) := by
  induction items with
  | nil => exact .inl ⟨Nat.zero_le room, [], rfl⟩
  | cons item rest ih =>
    obtain ⟨hitem, hrest⟩ := List.forall_mem_cons.1 h
    rw [Value.itemsDepth, Document.ofItems]
    rcases hitem with ⟨hle, first, hfirst⟩ | ⟨hlt, hfault⟩
    · rw [hfirst]
      rcases ih hrest with ⟨hles, others, hothers⟩ | ⟨hlts, hfaults⟩
      · rw [hothers]
        exact .inl ⟨Nat.max_le.2 ⟨hle, hles⟩, first :: others, rfl⟩
      · rw [hfaults]
        exact .inr ⟨Nat.lt_of_lt_of_le hlts (Nat.le_max_right _ _), rfl⟩
    · rw [hfault]
      exact .inr ⟨Nat.lt_of_lt_of_le hlt (Nat.le_max_left _ _), rfl⟩

theorem DepthDecides.ofMembers {members : Members}
    (htexts : ∀ member ∈ members, ∃ name, member.1 = .text name)
    (h : ∀ member ∈ members, DepthDecides member.2.depth room
      (Document.ofValueIn around room member.2)) :
    DepthDecides (Value.membersDepth members) room (Document.ofMembers around room members) := by
  induction members with
  | nil => exact .inl ⟨Nat.zero_le room, [], rfl⟩
  | cons member rest ih =>
    obtain ⟨key, value⟩ := member
    obtain ⟨⟨name, hname⟩, hnames⟩ := List.forall_mem_cons.1 htexts
    obtain ⟨hmember, hrest⟩ := List.forall_mem_cons.1 h
    have hkey : keyName key = .ok name := by
      rw [show key = .text name from hname]
      rfl
    rw [Value.membersDepth, Document.ofMembers, hkey]
    rcases hmember with ⟨hle, first, hfirst⟩ | ⟨hlt, hfault⟩
    · rw [hfirst]
      rcases ih hnames hrest with ⟨hles, others, hothers⟩ | ⟨hlts, hfaults⟩
      · rw [hothers]
        exact .inl ⟨Nat.max_le.2 ⟨hle, hles⟩, (name, first) :: others, rfl⟩
      · rw [hfaults]
        exact .inr ⟨Nat.lt_of_lt_of_le hlts (Nat.le_max_right _ _), rfl⟩
    · rw [hfault]
      exact .inr ⟨Nat.lt_of_lt_of_le hlt (Nat.le_max_left _ _), rfl⟩

end Json

namespace Value

variable {around : List Nat} {room : Nat}

/-- What comes of a value that is shown. -/
abbrev depthFault? (depth room : Nat) : Option ShowFault :=
  if depth ≤ room then none else some .tooDeep

theorem or_depthFault? (depth other room : Nat) :
    (depthFault? depth room).or (depthFault? other room) = depthFault? (max depth other) room := by
  simp only [depthFault?, Nat.max_le]
  by_cases hfirst : depth ≤ room
  · by_cases hsecond : other ≤ room <;> simp [hfirst, hsecond]
  · simp [hfirst]

theorem itemsShowFault_eq {items : List Value}
    (h : ∀ item ∈ items, showFaultIn around room item = depthFault? item.depth room) :
    itemsShowFault around room items = depthFault? (itemsDepth items) room := by
  induction items with
  | nil => rw [itemsShowFault, itemsDepth, depthFault?, if_pos (Nat.zero_le room)]
  | cons item rest ih =>
    obtain ⟨hitem, hrest⟩ := List.forall_mem_cons.1 h
    rw [itemsShowFault, itemsDepth, hitem, ih hrest, or_depthFault?]

theorem membersShowFault_eq {members : Members}
    (htexts : ∀ member ∈ members, ∃ name, member.1 = .text name)
    (h : ∀ member ∈ members, showFaultIn around room member.2 = depthFault? member.2.depth room) :
    membersShowFault around room members = depthFault? (membersDepth members) room := by
  induction members with
  | nil => rw [membersShowFault, membersDepth, depthFault?, if_pos (Nat.zero_le room)]
  | cons member rest ih =>
    obtain ⟨key, value⟩ := member
    obtain ⟨⟨name, hname⟩, hnames⟩ := List.forall_mem_cons.1 htexts
    obtain ⟨hmember, hrest⟩ := List.forall_mem_cons.1 h
    have hkey : key.showFault? = none := by
      rw [show key = .text name from hname]
      rfl
    rw [membersShowFault, membersDepth, hkey, Option.none_or, hmember, ih hnames hrest,
      or_depthFault?]

end Value

theorem Scalar.isWritable_of_isJson {s : Scalar} (h : s.isJson = true) : s.isWritable = true := by
  cases s with
  | int n => exact h
  | _ => rfl

namespace Value

theorem areWritable_iff {items : List Value} :
    areWritable items = true ↔ ∀ item ∈ items, item.isWritable = true := by
  induction items with
  | nil => simp [areWritable]
  | cons item rest ih => simp [areWritable, ih]

theorem areMembersWritable_iff {members : Members} :
    areMembersWritable members = true
      ↔ ∀ member ∈ members, member.1.isWritable = true ∧ member.2.isWritable = true := by
  induction members with
  | nil => simp [areMembersWritable]
  | cons member rest ih => simp [areMembersWritable, ih, and_assoc]

namespace IsJson

variable {v : Value}

/-- A JSON value has a document when there is room for its depth, whatever stands around it: nothing
in it goes back. -/
theorem depthDecides_ofValueIn (h : v.IsJson) (around : List Nat) (room : Nat) :
    Json.DepthDecides v.depth room (Json.Document.ofValueIn around room v) := by
  induction h generalizing room with
  | @scalar s json =>
    rw [Json.Document.ofValueIn, if_pos (Scalar.isWritable_of_isJson json)]
    exact .inl ⟨Nat.zero_le room, .scalar s, rfl⟩
  | list _ ih =>
    rw [depth, Json.Document.ofValueIn.eq_def]
    cases room with
    | zero => exact .inr ⟨Nat.succ_pos _, rfl⟩
    | succ room =>
      rcases Json.DepthDecides.ofItems fun item hitem => ih item hitem room with
        ⟨hle, ds, hds⟩ | ⟨hlt, hfault⟩
      · exact .inl ⟨Nat.succ_le_succ hle, .array ds, by simp only [hds]; rfl⟩
      · exact .inr ⟨Nat.succ_lt_succ hlt, by simp only [hfault]; rfl⟩
  | map _ texts _ ih =>
    rw [depth, Json.Document.ofValueIn.eq_def]
    cases room with
    | zero => exact .inr ⟨Nat.succ_pos _, rfl⟩
    | succ room =>
      rcases Json.DepthDecides.ofMembers texts fun member hmem => ih member hmem room with
        ⟨hle, ds, hds⟩ | ⟨hlt, hfault⟩
      · exact .inl ⟨Nat.succ_le_succ hle, .object ds, by simp only [hds]; rfl⟩
      · exact .inr ⟨Nat.succ_lt_succ hlt, by simp only [hfault]; rfl⟩

theorem exists_ofValue_iff (h : v.IsJson) :
    (∃ d, Json.Document.ofValue v = .ok d) ↔ v.depth ≤ Json.maxWrittenDepth := by
  rw [Json.Document.ofValue]
  rcases h.depthDecides_ofValueIn [] Json.maxWrittenDepth with ⟨hle, hwritten⟩ | ⟨hlt, hfault⟩
  · exact iff_of_true hwritten hle
  · rw [hfault]
    exact iff_of_false nofun (Nat.not_le_of_lt hlt)

/-- **A JSON value has a JSON text when it is not too deep.** -/
theorem write_cases (h : v.IsJson) :
    v.depth ≤ Json.maxWrittenDepth ∧ (∃ text, Json.write v = .ok text)
      ∨ Json.maxWrittenDepth < v.depth ∧ Json.write v = .error .tooDeep := by
  rw [Json.write, Json.Document.ofValue]
  rcases h.depthDecides_ofValueIn [] Json.maxWrittenDepth with ⟨hle, d, hd⟩ | ⟨hlt, hfault⟩
  · rw [hd]
    exact .inl ⟨hle, d.text, rfl⟩
  · rw [hfault]
    exact .inr ⟨hlt, rfl⟩

theorem showFaultIn_eq (h : v.IsJson) (around : List Nat) (room : Nat) :
    showFaultIn around room v = depthFault? v.depth room := by
  induction h generalizing room with
  | @scalar s json =>
    rw [showFaultIn, depth, Scalar.showFault?, if_pos (Scalar.isWritable_of_isJson json),
      depthFault?, if_pos (Nat.zero_le room)]
  | list _ ih =>
    rw [depth, showFaultIn.eq_def]
    cases room with
    | zero => rfl
    | succ room =>
      refine (itemsShowFault_eq fun item hitem => ih item hitem room).trans ?_
      simp only [depthFault?, Nat.succ_le_succ_iff]
  | map _ texts _ ih =>
    rw [depth, showFaultIn.eq_def]
    cases room with
    | zero => rfl
    | succ room =>
      refine (membersShowFault_eq texts fun member hmem => ih member hmem room).trans ?_
      simp only [depthFault?, Nat.succ_le_succ_iff]

/-- **Messages can show a JSON value when it is not too deep**: all its integers have decimal texts.
-/
theorem showFault?_eq (h : v.IsJson) : v.showFault? = depthFault? v.depth maxShownDepth :=
  h.showFaultIn_eq [] maxShownDepth

/-- No mapping in a JSON value holds a key twice. -/
theorem keyed (h : v.IsJson) : v.Keyed := by
  induction h with
  | scalar _ => exact .scalar _
  | list _ ih => exact .list ih
  | map distinct _ _ ih => exact .map distinct ih

/-! ## Looking into a JSON value -/

/-- No JSON value contains itself, so nothing is untied when it is looked into. -/
theorem unfold_eq (h : v.IsJson) : v.unfold = v := by
  cases h <;> rfl

/-- The members of a JSON value make a JSON mapping. -/
theorem members? (h : v.IsJson) {members : Members} (hmembers : v.members? = some members) :
    IsJson (.map members) := by
  rw [Value.members?, h.unfold_eq] at hmembers
  split at hmembers
  · cases hmembers
    exact h
  · cases hmembers

/-- The items of a JSON value are JSON values. -/
theorem items? (h : v.IsJson) {items : List Value} (hitems : v.items? = some items) :
    ∀ item ∈ items, item.IsJson := by
  rw [Value.items?, h.unfold_eq] at hitems
  split at hitems
  · cases hitems
    cases h with
    | list json => exact json
  · cases hitems

theorem texts {members : Members} (h : IsJson (.map members)) :
    ∀ member ∈ members, ∃ name, member.1 = .text name := by
  cases h with
  | map _ texts _ => exact texts

theorem of_mem {members : Members} (h : IsJson (.map members)) {member : Scalar × Value}
    (hmem : member ∈ members) : member.2.IsJson := by
  cases h with
  | map _ _ json => exact json member hmem

/-- What a JSON mapping holds under a text is a JSON value. -/
theorem get? {members : Members} (h : IsJson (.map members)) {key : String} {value : Value}
    (hget : members.get? key = some value) : value.IsJson := by
  rw [Members.get?, Option.map_eq_some_iff] at hget
  obtain ⟨member, hfind, rfl⟩ := hget
  exact h.of_mem (List.mem_of_find?_eq_some hfind)

theorem param? {members : Members} (h : IsJson (.map members)) {key : String} {value : Value}
    (hparam : members.param? key = some value) : value.IsJson := by
  unfold Members.param? at hparam
  split at hparam
  · exact nomatch hparam
  · exact h.get? hparam

end IsJson

end Value

end FlowLint
