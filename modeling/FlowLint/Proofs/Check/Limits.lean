import FlowLint.Check
import FlowLint.Json.Reader
import Mathlib.Algebra.Order.Field.Basic
import Mathlib.Data.Rat.Cast.Order
import Mathlib.Order.WithBot

/-!
# Numeric limits

Two checks hold a parameter against a limit: the limit of iterations and the count of results of a
vector store. The value is to be a number from one to the limit. Numbers of both kinds have a place
on one line, between two infinities, and only a nan has none.

* **`Number.ltInt_iff`**, **`Number.gtInt_iff`**: the program compares numbers with bounds by their
  places.
* **`Rules.LimitCheck`**: what the two checks have in common, and what they say. Both are such a
  check (`Rules.iterationFindings_eq`, `Rules.topKFindings_eq`).
* **`Rules.LimitCheck.findings_of_place`**: what is found for a number that has a place.
* **`Check.limits_exact`**: nothing is found exactly for the numbers from one to the limit, and one
  thing for any other value, as long as the value is no nan and can be shown.
-/

namespace FlowLint

/-! ## Places of numbers -/

/-- The rational numbers between two infinities. -/
abbrev NumberLine := WithBot (WithTop ℚ)

/-- The place of a rational number. -/
def NumberLine.of (q : ℚ) : NumberLine :=
  (q : WithTop ℚ)

namespace NumberLine

theorem of_strictMono : StrictMono of := fun _ _ hless =>
  WithBot.coe_lt_coe.2 (WithTop.coe_lt_coe.2 hless)

theorem bot_lt_of (q : ℚ) : ⊥ < of q :=
  WithBot.bot_lt_coe _

theorem of_lt_top (q : ℚ) : of q < ⊤ :=
  WithBot.coe_lt_coe.2 (WithTop.coe_lt_top q)

end NumberLine

/-- The place of a floating-point number; a nan has none. -/
def Binary64.place? : Binary64 → Option NumberLine
  | .finite negative m e => some (.of ((if negative then -m else m : ℤ) * 2 ^ e))
  | .infinite negative => some (if negative then ⊥ else ⊤)
  | .nan => none

/-- The place of a number. -/
def Number.place? : Number → Option NumberLine
  | .int n => some (.of n)
  | .float x => x.place?

namespace Binary64

theorem cast_mul_two_pow (a : ℤ) {e : ℤ} (h : 0 ≤ e) :
    ((a * Nat.pow 2 e.toNat : ℤ) : ℚ) = a * 2 ^ e := by
  have hpow : ((Nat.pow 2 e.toNat : ℕ) : ℚ) = 2 ^ e := by
    rw [Nat.pow_eq, Nat.cast_pow, Nat.cast_ofNat, ← zpow_natCast, Int.toNat_of_nonneg h]
  rw [Int.cast_mul, Int.cast_natCast, hpow]

/-- A finite number is compared as the rational number that it is. -/
theorem compareInt_finite (negative : Bool) (m : Nat) (e bound : Int) :
    compareInt (.finite negative m e) bound
      = some (cmp ((if negative then -m else m : ℤ) * 2 ^ e : ℚ) bound) := by
  have hcast : ∀ a b : ℤ, cmp (a : ℚ) b = compare a b := fun a b =>
    (Int.cast_strictMono.cmp_map_eq a b).trans (cmp_eq_compare a b)
  rw [compareInt]
  generalize (if negative then -m else m : ℤ) = signed
  by_cases hwhole : 0 ≤ e
  · rw [if_pos hwhole, ← hcast, cast_mul_two_pow signed hwhole]
  · have hpositive : (0 : ℚ) < 2 ^ (-e) := zpow_pos two_pos (-e)
    -- both sides are multiplied by a power of two
    have hcancel : (signed * 2 ^ e * 2 ^ (-e) : ℚ) = signed := by
      rw [mul_assoc, ← zpow_add₀ two_ne_zero, add_neg_cancel, zpow_zero, mul_one]
    rw [if_neg hwhole, ← cmp_mul_pos_right hpositive, hcancel,
      ← cast_mul_two_pow bound (by omega), hcast]

end Binary64

namespace Number

/-- **Numbers are compared with bounds by their places.** -/
theorem compareInt_eq (n : Number) (bound : Int) :
    n.compareInt bound = n.place?.map (cmp · (.of bound)) := by
  have hplace : ∀ q : ℚ, cmp (NumberLine.of q) (.of bound) = cmp q bound := fun q =>
    NumberLine.of_strictMono.cmp_map_eq q bound
  cases n with
  | int n =>
    have hcast : cmp (n : ℚ) bound = compare n bound :=
      (Int.cast_strictMono.cmp_map_eq n bound).trans (cmp_eq_compare n bound)
    rw [compareInt, place?, Option.map_some, hplace, hcast]
  | float x =>
    cases x with
    | finite negative m e =>
      rw [compareInt, place?, Binary64.place?, Option.map_some, hplace,
        Binary64.compareInt_finite]
    | infinite negative =>
      cases negative with
      | true =>
        show some Ordering.lt = some (cmp ⊥ (NumberLine.of bound))
        rw [(cmp_eq_lt_iff _ _).2 (NumberLine.bot_lt_of bound)]
      | false =>
        show some Ordering.gt = some (cmp ⊤ (NumberLine.of bound))
        rw [(cmp_eq_gt_iff _ _).2 (NumberLine.of_lt_top bound)]
    | nan => rfl

theorem ltInt_iff {n : Number} {bound : Int} :
    n.ltInt bound = true ↔ ∃ place, n.place? = some place ∧ place < .of bound := by
  rw [ltInt, beq_iff_eq, compareInt_eq, Option.map_eq_some_iff]
  exact exists_congr fun place => and_congr_right fun _ => cmp_eq_lt_iff place _

theorem gtInt_iff {n : Number} {bound : Int} :
    n.gtInt bound = true ↔ ∃ place, n.place? = some place ∧ .of bound < place := by
  rw [gtInt, beq_iff_eq, compareInt_eq, Option.map_eq_some_iff]
  exact exists_congr fun place => and_congr_right fun _ => cmp_eq_gt_iff place _

/-- A number that has a place is below or above a bound when the place is. -/
theorem ltInt_iff_of_place? {n : Number} {place : NumberLine} (h : n.place? = some place)
    (bound : Int) : n.ltInt bound = true ↔ place < .of bound := by
  rw [ltInt_iff, h]
  simp

theorem gtInt_iff_of_place? {n : Number} {place : NumberLine} (h : n.place? = some place)
    (bound : Int) : n.gtInt bound = true ↔ .of bound < place := by
  rw [gtInt_iff, h]
  simp

/-- Only a nan has no place. -/
theorem place?_eq_none_iff {n : Number} : n.place? = none ↔ n = .float .nan := by
  cases n with
  | int n => simp [place?]
  | float x => cases x <;> simp [place?, Binary64.place?]

end Number

namespace Value

def place? (value : Value) : Option NumberLine :=
  value.number?.bind Number.place?

/-- The value is the nan. -/
def IsNan (value : Value) : Prop :=
  value.number? = some (.float .nan)

/-- The value is a number from one to the limit. -/
def IsWithin (value : Value) (limit : Nat) : Prop :=
  ∃ place, value.place? = some place ∧ .of 1 ≤ place ∧ place ≤ .of limit

/-- The value is a number above the limit. -/
def IsAbove (value : Value) (limit : Nat) : Prop :=
  ∃ place, value.place? = some place ∧ .of limit < place

theorem showFault?_of_number? {value : Value} {n : Number} (h : value.number? = some n) :
    value.showFault? = n.showFault? := by
  cases value with
  | scalar s =>
    cases s with
    | int | float =>
      cases h
      rfl
    | _ => exact nomatch h
  | _ => exact nomatch h

theorem IsNan.place? {value : Value} (h : value.IsNan) : value.place? = none := by
  rw [Value.place?, h]
  rfl

theorem IsNan.not_isWithin {value : Value} (h : value.IsNan) (limit : Nat) :
    ¬ value.IsWithin limit := by
  rintro ⟨place, hplace, -⟩
  rw [h.place?] at hplace
  exact nomatch hplace

theorem IsAbove.not_isNan {value : Value} {limit : Nat} (h : value.IsAbove limit) :
    ¬ value.IsNan := by
  intro hnan
  obtain ⟨place, hplace, -⟩ := h
  rw [hnan.place?] at hplace
  exact nomatch hplace

theorem IsAbove.not_isWithin {value : Value} {limit : Nat} (h : value.IsAbove limit) :
    ¬ value.IsWithin limit := by
  obtain ⟨place, hplace, hmore⟩ := h
  rintro ⟨other, hother, -, hmost⟩
  obtain rfl : place = other := Option.some.inj (hplace.symm.trans hother)
  exact absurd hmore (not_lt.2 hmost)

/-- A value that is not within the limit can be shown, and so can the limit when the value is above
it. -/
structure CanBeShown (value : Value) (limit : Nat) : Prop where
  value_shown : ¬ value.IsWithin limit → value.showFault? = none
  limit_shown : value.IsAbove limit → numeralFault? limit = none

end Value

/-- A number fails for its length alone. -/
theorem eq_longNumeral_of_numeralFault? {n : Int} {fault : ShowFault}
    (h : numeralFault? n = some fault) : fault = .longNumeral := by
  unfold numeralFault? at h
  split at h
  · exact nomatch h
  · exact (Option.some.inj h).symm

/-! ## Checks of a limit -/

namespace Rules

/-- A check that holds a parameter against a limit, with what it finds in values that are no
numbers, below one, or above the limit. -/
structure LimitCheck where
  key : String
  limit : Settings → Threshold 1
  notNumeric : Value → Finding
  tooLow : Value → Number → Finding
  tooHigh : Number → Nat → Finding
  high : Code
  severity_notNumeric : ∀ value, (notNumeric value).severity = .error
  severity_tooLow : ∀ value n, (tooLow value n).severity = .error
  severity_tooHigh : ∀ n bound, (tooHigh n bound).severity = .warning
  code_tooHigh : ∀ n bound, (tooHigh n bound).code = high
  fault_notNumeric : ∀ value, (notNumeric value).fault? = value.showFault?
  fault_tooLow : ∀ value n, value.number? = some n → (tooLow value n).fault? = value.showFault?
  fault_tooHigh : ∀ n bound, (tooHigh n bound).fault? = n.showFault?.or (numeralFault? bound)

namespace LimitCheck

def iterations : LimitCheck where
  key := "maxIterations"
  limit := (·.maxIterationsWarning)
  notNumeric value := .error (.iterationsNotNumeric value)
  tooLow _ n := .error (.iterationsTooLow n)
  tooHigh n bound := .warning (.iterationsHigh n bound)
  high := .maxIterationsHigh
  severity_notNumeric _ := rfl
  severity_tooLow _ _ := rfl
  severity_tooHigh _ _ := rfl
  code_tooHigh _ _ := rfl
  fault_notNumeric _ := rfl
  fault_tooLow _ _ h := (Value.showFault?_of_number? h).symm
  fault_tooHigh _ _ := rfl

def topK : LimitCheck where
  key := "topK"
  limit := (·.maxTopKWarning)
  notNumeric value := .error (.invalidTopK value)
  tooLow value _ := .error (.invalidTopK value)
  tooHigh n bound := .warning (.topKHigh n bound)
  high := .topKHigh
  severity_notNumeric _ := rfl
  severity_tooLow _ _ := rfl
  severity_tooHigh _ _ := rfl
  code_tooHigh _ _ := rfl
  fault_notNumeric _ := rfl
  fault_tooLow _ _ _ := rfl
  fault_tooHigh _ _ := rfl

/-- What the check finds. -/
def findings (check : LimitCheck) (node : Node) (settings : Settings) : List Finding :=
  match node.parameters.param? check.key with
  | none => []
  | some value =>
    match value.number? with
    | none => [check.notNumeric value]
    | some n =>
      if n.ltInt 1 then [check.tooLow value n]
      else if n.gtInt (check.limit settings).value then
        [check.tooHigh n (check.limit settings).value]
      else []

end LimitCheck

theorem iterationFindings_eq (node : Node) (settings : Settings) :
    iterationFindings node settings = LimitCheck.iterations.findings node settings :=
  rfl

theorem topKFindings_eq (node : Node) (settings : Settings) :
    topKFindings node settings = LimitCheck.topK.findings node settings :=
  rfl

namespace LimitCheck

variable {check : LimitCheck} {node : Node} {settings : Settings} {value : Value}

/-- What is found for a number that has a place. -/
theorem findings_of_place (h : node.parameters.param? check.key = some value) {n : Number}
    (hn : value.number? = some n) {place : NumberLine} (hplace : n.place? = some place) :
    check.findings node settings
      = if place < .of 1 then [check.tooLow value n]
        else if .of (check.limit settings).value < place then
          [check.tooHigh n (check.limit settings).value]
        else [] := by
  have hlow : n.ltInt 1 = true ↔ place < .of 1 := by
    rw [Number.ltInt_iff_of_place? hplace, Int.cast_one]
  have hhigh : n.gtInt (check.limit settings).value = true
      ↔ .of (check.limit settings).value < place := by
    rw [Number.gtInt_iff_of_place? hplace, Int.cast_natCast]
  rw [findings, h]
  dsimp only
  rw [hn]
  dsimp only
  simp only [hlow, hhigh]

/-- Nothing is found in a nan, which is neither below nor above a bound. -/
theorem findings_of_nan (h : node.parameters.param? check.key = some value)
    (hnan : value.IsNan) : check.findings node settings = [] := by
  rw [findings, h]
  dsimp only
  rw [show value.number? = some (.float .nan) from hnan]
  rfl

theorem findings_of_within (h : node.parameters.param? check.key = some value)
    (hwithin : value.IsWithin (check.limit settings).value) :
    check.findings node settings = [] := by
  obtain ⟨place, hplace, hleast, hmost⟩ := hwithin
  obtain ⟨n, hn, hplace⟩ := Option.bind_eq_some_iff.1 hplace
  rw [findings_of_place h hn hplace, if_neg (not_lt.2 hleast), if_neg (not_lt.2 hmost)]

/-- A number above the limit is not below one, as the limit is not. -/
theorem findings_of_above (h : node.parameters.param? check.key = some value)
    (habove : value.IsAbove (check.limit settings).value) :
    ∃ f, check.findings node settings = [f] ∧ f.code = check.high ∧ f.severity = .warning
      ∧ f.fault? = value.showFault?.or (numeralFault? (check.limit settings).value) := by
  obtain ⟨place, hplace, hmore⟩ := habove
  obtain ⟨n, hn, hplace⟩ := Option.bind_eq_some_iff.1 hplace
  have hleast : NumberLine.of 1 ≤ .of (check.limit settings).value :=
    NumberLine.of_strictMono.monotone (by exact_mod_cast (check.limit settings).least_le)
  refine ⟨check.tooHigh n (check.limit settings).value, ?_, check.code_tooHigh _ _,
    check.severity_tooHigh _ _, ?_⟩
  · rw [findings_of_place h hn hplace, if_neg (not_lt.2 (hleast.trans hmore.le)), if_pos hmore]
  · rw [check.fault_tooHigh, Value.showFault?_of_number? hn]

theorem findings_of_other (h : node.parameters.param? check.key = some value)
    (hnan : ¬ value.IsNan) (hwithin : ¬ value.IsWithin (check.limit settings).value)
    (habove : ¬ value.IsAbove (check.limit settings).value) :
    ∃ f, check.findings node settings = [f] ∧ f.severity = .error
      ∧ f.fault? = value.showFault? := by
  cases hn : value.number? with
  | none =>
    refine ⟨check.notNumeric value, ?_, check.severity_notNumeric _, check.fault_notNumeric _⟩
    rw [findings, h]
    dsimp only
    rw [hn]
  | some n =>
    cases hplace : n.place? with
    | none =>
      rw [Number.place?_eq_none_iff.1 hplace] at hn
      exact absurd hn hnan
    | some place =>
      have hvalue : value.place? = some place := Option.bind_eq_some_iff.2 ⟨n, hn, hplace⟩
      have hlow : place < .of 1 := by
        by_contra hleast
        exact hwithin ⟨place, hvalue, not_lt.1 hleast,
          not_lt.1 fun hmore => habove ⟨place, hvalue, hmore⟩⟩
      refine ⟨check.tooLow value n, ?_, check.severity_tooLow _ _, check.fault_tooLow _ _ hn⟩
      rw [findings_of_place h hn hplace, if_pos hlow]

end LimitCheck

end Rules

namespace Check

/-- What becomes of a value that is held against a limit. Of what cannot be shown the value comes
first, and the limit fails for its length alone. -/
inductive HeldAgainst (value : Value) (limit : Nat) (high : Code) :
    Except CheckFault (List Diagnostic) → Prop
  | nan (isNan : value.IsNan) : HeldAgainst value limit high (.ok [])
  | within (isWithin : value.IsWithin limit) : HeldAgainst value limit high (.ok [])
  | above {d : Diagnostic} (isAbove : value.IsAbove limit) (shown : value.CanBeShown limit)
      (code_eq : d.code = high) (severity_eq : d.severity = .warning) :
      HeldAgainst value limit high (.ok [d])
  | other {d : Diagnostic} (notNan : ¬ value.IsNan) (notWithin : ¬ value.IsWithin limit)
      (notAbove : ¬ value.IsAbove limit) (shown : value.CanBeShown limit)
      (severity_eq : d.severity = .error) : HeldAgainst value limit high (.ok [d])
  | unshown (notNan : ¬ value.IsNan) (notShown : ¬ value.CanBeShown limit) :
      HeldAgainst value limit high (.error (.statement (value.showFault?.getD .longNumeral)))

/-- The limit is kept: nothing is said of numbers from one to the limit, there is the one warning
for numbers above it, and one error for every other value. -/
structure KeepsLimit (value : Value) (limit : Nat) (high : Code)
    (outcome : Except CheckFault (List Diagnostic)) : Prop where
  nothing_iff : outcome = .ok [] ↔ value.IsWithin limit
  above : value.IsAbove limit → ∃ d, outcome = .ok [d] ∧ d.code = high ∧ d.severity = .warning
  other : ¬ value.IsWithin limit → ¬ value.IsAbove limit →
    ∃ d, outcome = .ok [d] ∧ d.severity = .error

theorem report_singleton (node : Node) (label : String) (f : Finding) :
    report node label [f]
      = match f.fault? with
        | none => .ok [⟨f, label, node.id, node.name⟩]
        | some fault => .error (.statement fault) := by
  rw [report, Rules.worded, List.findSome?_singleton]
  cases f.fault? <;> rfl

theorem report_append (node : Node) (label : String) (first second : List Finding) :
    report node label (first ++ second)
      = (report node label first).bind fun ds =>
          (report node label second).map fun others => ds ++ others := by
  simp only [report, Rules.worded, List.findSome?_append]
  cases first.findSome? (·.fault?) with
  | some fault => rfl
  | none =>
    cases second.findSome? (·.fault?) with
    | some fault => rfl
    | none => exact congrArg Except.ok (List.map_append ..)

/-- **What a check of a limit gives.** -/
theorem heldAgainst (check : Rules.LimitCheck) {node : Node} {value : Value}
    (h : node.parameters.param? check.key = some value) (settings : Settings) (label : String) :
    HeldAgainst value (check.limit settings).value check.high
      (report node label (check.findings node settings)) := by
  set limit := (check.limit settings).value
  by_cases hnan : value.IsNan
  · rw [Rules.LimitCheck.findings_of_nan h hnan]
    exact .nan hnan
  by_cases hwithin : value.IsWithin limit
  · rw [Rules.LimitCheck.findings_of_within h hwithin]
    exact .within hwithin
  have hunshown : ¬ value.CanBeShown limit → HeldAgainst value limit check.high
      (.error (.statement (value.showFault?.getD .longNumeral))) := .unshown hnan
  have hvalueFault : ∀ {fault : ShowFault}, value.showFault? = some fault →
      HeldAgainst value limit check.high (.error (.statement fault)) := by
    intro fault hfault
    have hheld := hunshown fun hshown => nomatch hfault.symm.trans (hshown.value_shown hwithin)
    rwa [hfault] at hheld
  by_cases habove : value.IsAbove limit
  · obtain ⟨f, hf, hcode, hseverity, hfault⟩ := Rules.LimitCheck.findings_of_above h habove
    rw [hf, report_singleton, hfault]
    cases hvalue : value.showFault? with
    | some fault => exact hvalueFault hvalue
    | none =>
      cases hlimit : numeralFault? limit with
      | some fault =>
        have hheld := hunshown fun hshown =>
          nomatch hlimit.symm.trans (hshown.limit_shown habove)
        rwa [hvalue, ← eq_longNumeral_of_numeralFault? hlimit] at hheld
      | none => exact .above habove ⟨fun _ => hvalue, fun _ => hlimit⟩ hcode hseverity
  · obtain ⟨f, hf, hseverity, hfault⟩ :=
      Rules.LimitCheck.findings_of_other h hnan hwithin habove
    rw [hf, report_singleton, hfault]
    cases hvalue : value.showFault? with
    | some fault => exact hvalueFault hvalue
    | none =>
      exact .other hnan hwithin habove ⟨fun _ => hvalue, fun h => absurd h habove⟩ hseverity

/-- **When the limit is kept**: for every value but the nan, if what is said of it can be shown. -/
theorem HeldAgainst.keepsLimit_iff {value : Value} {limit : Nat} {high : Code}
    {outcome : Except CheckFault (List Diagnostic)}
    (h : HeldAgainst value limit high outcome) :
    KeepsLimit value limit high outcome ↔ ¬ value.IsNan ∧ value.CanBeShown limit := by
  cases h with
  | nan hnan =>
    refine iff_of_false (fun hkeeps => ?_) fun hplain => hplain.1 hnan
    exact hnan.not_isWithin limit (hkeeps.nothing_iff.1 rfl)
  | within hwithin =>
    refine iff_of_true ⟨iff_of_true rfl hwithin, fun habove => absurd hwithin habove.not_isWithin,
      fun hother => absurd hwithin hother⟩ ⟨fun hnan => hnan.not_isWithin limit hwithin, ?_⟩
    exact ⟨fun hother => absurd hwithin hother, fun habove => absurd hwithin habove.not_isWithin⟩
  | @above d habove hshown hcode hseverity =>
    exact iff_of_true ⟨iff_of_false nofun habove.not_isWithin,
      fun _ => ⟨d, rfl, hcode, hseverity⟩, fun _ hother => absurd habove hother⟩
      ⟨habove.not_isNan, hshown⟩
  | @other d hnan hwithin habove hshown hseverity =>
    exact iff_of_true ⟨iff_of_false nofun hwithin, fun h => absurd h habove,
      fun _ _ => ⟨d, rfl, hseverity⟩⟩ ⟨hnan, hshown⟩
  | unshown hnan hshown =>
    refine iff_of_false (fun hkeeps => ?_) fun hplain => hshown hplain.2
    -- a value that is not within the limit would have its diagnostic
    by_cases hwithin : value.IsWithin limit
    · exact nomatch hkeeps.nothing_iff.2 hwithin
    by_cases habove : value.IsAbove limit
    · obtain ⟨d, hd, -⟩ := hkeeps.above habove
      exact nomatch hd
    · obtain ⟨d, hd, -⟩ := hkeeps.other hwithin habove
      exact nomatch hd

/-- **Numeric limits are exact.** Of the limit of iterations and of the count of results, nothing is
said exactly when the value is a number from one to the limit or the nan, and one thing otherwise, a
warning above the limit and an error for all else; when it cannot be shown, there is a fault. So the
limit is kept exactly for values that are no nan and can be shown. The check of a vector store says
what is to be said of its description, and then of the count. -/
theorem limits_exact (node : Node) (settings : Settings) (value : Value) :
    (∀ label, node.parameters.param? "maxIterations" = some value →
      HeldAgainst value settings.maxIterationsWarning.value .maxIterationsHigh
        (report node label (Rules.iterationFindings node settings))
      ∧ (KeepsLimit value settings.maxIterationsWarning.value .maxIterationsHigh
          (report node label (Rules.iterationFindings node settings))
        ↔ ¬ value.IsNan ∧ value.CanBeShown settings.maxIterationsWarning.value))
    ∧ (node.parameters.param? "topK" = some value →
      HeldAgainst value settings.maxTopKWarning.value .topKHigh
        (report node ToolKind.vectorStore.label (Rules.topKFindings node settings))
      ∧ (KeepsLimit value settings.maxTopKWarning.value .topKHigh
          (report node ToolKind.vectorStore.label (Rules.topKFindings node settings))
        ↔ ¬ value.IsNan ∧ value.CanBeShown settings.maxTopKWarning.value))
    ∧ ∀ ctx : Context, ctx.settings = settings →
      tool ctx .vectorStore node
        = (report node ToolKind.vectorStore.label (Rules.descriptionFindings node settings)).bind
            fun ds => (report node ToolKind.vectorStore.label
              (Rules.topKFindings node settings)).map fun others => ds ++ others := by
  refine ⟨fun label h => ?_, fun h => ?_, ?_⟩
  · rw [Rules.iterationFindings_eq]
    have hheld := heldAgainst .iterations h settings label
    exact ⟨hheld, hheld.keepsLimit_iff⟩
  · rw [Rules.topKFindings_eq]
    have hheld := heldAgainst .topK h settings ToolKind.vectorStore.label
    exact ⟨hheld, hheld.keepsLimit_iff⟩
  · rintro ctx rfl
    exact report_append node _ _ _

/-- A node with one value for the limit of iterations and for the count of results. -/
def limitedNode (value : Value) : Node where
  id := none
  name := "V"
  type := "nodes-langchain.toolVectorStore"
  typeVersion := .null
  parameters := [(.text "maxIterations", value), (.text "topK", value)]
  credentials := []
  disabled := false
  extra := []

/-- The limits are kept for the number 24.5, which is within one and above the other. -/
theorem limits_exact_fraction :
    KeepsLimit (.scalar (.float (.finite false 49 (-1)))) 50 .maxIterationsHigh
      (report (limitedNode (.scalar (.float (.finite false 49 (-1))))) "AI Agent"
        (Rules.iterationFindings (limitedNode (.scalar (.float (.finite false 49 (-1)))))
          .defaults))
    ∧ KeepsLimit (.scalar (.float (.finite false 49 (-1)))) 20 .topKHigh
      (report (limitedNode (.scalar (.float (.finite false 49 (-1))))) "Vector Store Tool"
        (Rules.topKFindings (limitedNode (.scalar (.float (.finite false 49 (-1)))))
          .defaults)) := by
  obtain ⟨hiterations, htopK, -⟩ := limits_exact
    (limitedNode (.scalar (.float (.finite false 49 (-1))))) .defaults
    (.scalar (.float (.finite false 49 (-1))))
  have hnumber : ¬ Value.IsNan (.scalar (.float (.finite false 49 (-1)))) := nofun
  exact ⟨(hiterations "AI Agent" rfl).2.2 ⟨hnumber, fun _ => rfl, fun _ => by decide +kernel⟩,
    (htopK rfl).2.2 ⟨hnumber, fun _ => rfl, fun _ => by decide +kernel⟩⟩

/-- The nan, which JSON texts can hold, is no number from one to a limit, and yet nothing is said of
it. -/
theorem limits_not_kept_nan :
    Json.read "NaN".toList = .ok (.scalar (.float .nan))
    ∧ report (limitedNode (.scalar (.float .nan))) "AI Agent"
        (Rules.iterationFindings (limitedNode (.scalar (.float .nan))) .defaults) = .ok []
    ∧ ¬ KeepsLimit (.scalar (.float .nan)) 50 .maxIterationsHigh
      (report (limitedNode (.scalar (.float .nan))) "AI Agent"
        (Rules.iterationFindings (limitedNode (.scalar (.float .nan))) .defaults))
    ∧ ¬ KeepsLimit (.scalar (.float .nan)) 20 .topKHigh
      (report (limitedNode (.scalar (.float .nan))) "Vector Store Tool"
        (Rules.topKFindings (limitedNode (.scalar (.float .nan))) .defaults)) := by
  have hnan : Value.IsNan (.scalar (.float .nan)) := rfl
  exact ⟨rfl, rfl, fun h => hnan.not_isWithin 50 (h.nothing_iff.1 rfl),
    fun h => hnan.not_isWithin 20 (h.nothing_iff.1 rfl)⟩

end Check

end FlowLint
