import FlowLint.Json.Writer
import FlowLint.Proofs.Text.Expressions

/-!
# Placeholders in escaped texts

In a JSON text a text stands with escapes, which are a backslash and no braces. So the escaped text
has its expressions where the text has them, and its placeholders are those of the text that need no
escape.

* **`stringChar_cases`**: a character stands for itself, or its escape is a backslash and no braces.
* **`stripExpressions_escaped`**: stripping expressions and escaping do not depend on their order.
* **`placeholders_escaped`**: the escapes of a text keep its ASCII placeholders, and no others.
-/

namespace FlowLint

/-- All characters of the text are ASCII. -/
def Text.isAscii (s : String) : Bool :=
  s.toList.all (·.toNat < 0x80)

namespace Json

open Text

/-! ## The escapes of a character

All that matters of an escape is that it begins with a backslash, which stands in no token, and that
it holds no brace. -/

/-- A text in the characters that stand for it in a JSON text. -/
def escaped (cs : List Char) : List Char :=
  cs.flatMap stringChar

theorem mem_toDigitsCore {base fuel n : Nat} {done : List Char} {c : Char}
    (h : c ∈ Nat.toDigitsCore base fuel n done) : c ∈ done ∨ ∃ d, c = Nat.digitChar d := by
  induction fuel generalizing n done with
  | zero => exact .inl h
  | succ fuel ih =>
    rw [Nat.toDigitsCore] at h
    split at h
    · rcases List.mem_cons.1 h with rfl | h
      · exact .inr ⟨_, rfl⟩
      · exact .inl h
    · rcases ih h with h | h
      · rcases List.mem_cons.1 h with rfl | h
        · exact .inr ⟨_, rfl⟩
        · exact .inl h
      · exact .inr h

/-- A character that is no digit stands in no numeral. -/
theorem not_mem_toDigits {c : Char} (hc : ∀ d, Nat.digitChar d ≠ c) (base n : Nat) :
    c ∉ Nat.toDigits base n := by
  intro hmem
  rcases mem_toDigitsCore hmem with hnone | ⟨d, rfl⟩
  · exact absurd hnone List.not_mem_nil
  · exact hc d rfl

theorem not_mem_unitEscape {c : Char} (hslash : c ≠ '\\') (hu : c ≠ 'u')
    (hc : ∀ d, Nat.digitChar d ≠ c) (n : Nat) : c ∉ unitEscape n := by
  have hzero : c ≠ '0' := fun h => hc 0 h.symm
  simp [unitEscape, hexText, hslash, hu, hzero, not_mem_toDigits hc]

/-- The escape of a character is a backslash and more, without the characters that stand in no
escape. -/
theorem charEscape_eq (c : Char) :
    ∃ more, charEscape c = '\\' :: more ∧ more ≠ [] ∧ ∀ d, d ≠ '\\' → d ≠ 'u' →
      (∀ n, Nat.digitChar n ≠ d) → d ∉ more := by
  have hunit : ∀ n, ∃ more, unitEscape n = '\\' :: more ∧ more ≠ [] := fun n =>
    ⟨_, rfl, List.cons_ne_nil _ _⟩
  simp only [charEscape]
  split
  · obtain ⟨more, hmore, hne⟩ := hunit c.toNat
    refine ⟨more, hmore, hne, fun d hslash hu hdigit hmem => ?_⟩
    have hnone := not_mem_unitEscape hslash hu hdigit c.toNat
    rw [hmore] at hnone
    exact hnone (List.mem_cons_of_mem _ hmem)
  · -- beyond the first plane there are two code units, whichever they are
    generalize 0xD800 + (c.toNat - 0x10000) / 0x400 = high
    generalize 0xDC00 + (c.toNat - 0x10000) % 0x400 = low
    obtain ⟨more, hmore, hne⟩ := hunit high
    refine ⟨more ++ unitEscape low, by rw [hmore, List.cons_append], by simp [hne],
      fun d hslash hu hdigit hmem => ?_⟩
    have hnone := not_mem_unitEscape hslash hu hdigit high
    rw [hmore] at hnone
    rcases List.mem_append.1 hmem with hmem | hmem
    · exact hnone (List.mem_cons_of_mem _ hmem)
    · exact not_mem_unitEscape hslash hu hdigit low hmem

/-- A character stands for itself, or is written with a backslash and without braces. -/
theorem stringChar_cases (c : Char) :
    (stringChar c = [c] ∧ c ≠ '\\' ∧ c.toNat < 0x80)
      ∨ ∃ more, stringChar c = '\\' :: more ∧ more ≠ [] ∧ '\x7b' ∉ more ∧ '\x7d' ∉ more := by
  unfold stringChar
  split
  -- the characters without a short escape are the last case
  case h_8 _ hslash _ _ _ _ _ =>
    split
    · next hprintable => exact .inl ⟨rfl, hslash, by omega⟩
    · obtain ⟨more, hmore, hne, hnone⟩ := charEscape_eq c
      refine .inr ⟨more, hmore, hne, ?_, ?_⟩
      · exact hnone _ (by decide) (by decide) fun n => Nat.digitChar_ne _ (by decide)
      · exact hnone _ (by decide) (by decide) fun n => Nat.digitChar_ne _ (by decide)
  all_goals exact .inr ⟨_, rfl, by decide, by decide, by decide⟩

/-- A character of a name stands for itself when it is ASCII. -/
theorem stringChar_eq_self_iff {c : Char} (h : isNamePart c = true) :
    stringChar c = [c] ↔ c.toNat < 0x80 := by
  constructor
  · intro hself
    rcases stringChar_cases c with ⟨-, -, hascii⟩ | ⟨more, hmore, hne, -, -⟩
    · exact hascii
    · rw [hself] at hmore
      exact absurd (List.cons.inj hmore).2.symm hne
  · intro hascii
    -- there are few enough ASCII characters to look at each of them
    have hall : ∀ n < 0x80, isNamePart (Char.ofNat n) = true →
        stringChar (Char.ofNat n) = [Char.ofNat n] := by decide
    have hc := hall c.toNat hascii
    rw [Char.ofNat_toNat] at hc
    exact hc h

/-! ## Expressions in escaped texts -/

theorem escaped_cons (c : Char) (cs : List Char) : escaped (c :: cs) = stringChar c ++ escaped cs :=
  List.flatMap_cons

/-- What stands in front of an escaped text, without a backslash, stands in front of the text. -/
theorem prefix_escaped_iff {token cs : List Char} (h : '\\' ∉ token) :
    token <+: escaped cs ↔ token <+: cs ∧ ∀ c ∈ token, stringChar c = [c] := by
  induction token generalizing cs with
  | nil => simp
  | cons d token ih =>
    obtain ⟨hd, htoken⟩ := not_or.1 (mt List.mem_cons.2 h)
    cases cs with
    | nil => simp [escaped]
    | cons c cs =>
      rw [escaped_cons, List.forall_mem_cons, List.cons_prefix_cons]
      rcases stringChar_cases c with ⟨hself, -, -⟩ | ⟨more, hmore, hne, -, -⟩
      · rw [hself, List.singleton_append, List.cons_prefix_cons, ih htoken]
        constructor
        · rintro ⟨rfl, hprefix, hall⟩
          exact ⟨⟨rfl, hprefix⟩, hself, hall⟩
        · rintro ⟨⟨rfl, hprefix⟩, -, hall⟩
          exact ⟨rfl, hprefix, hall⟩
      · -- in front stands a backslash, and the token begins with another character
        rw [hmore, List.cons_append, List.cons_prefix_cons]
        refine iff_of_false (fun hfront => hd hfront.1.symm) ?_
        rintro ⟨⟨rfl, -⟩, hself, -⟩
        rw [hmore] at hself
        exact hne (List.cons.inj hself).2

theorem opening_prefix_escaped_iff {cs : List Char} : opening <+: escaped cs ↔ opening <+: cs := by
  rw [prefix_escaped_iff (by decide)]
  exact and_iff_left (List.forall_mem_cons.2 ⟨rfl, List.forall_mem_singleton.2 rfl⟩)

theorem closing_prefix_escaped_iff {cs : List Char} : closing <+: escaped cs ↔ closing <+: cs := by
  rw [prefix_escaped_iff (by decide)]
  exact and_iff_left (List.forall_mem_cons.2 ⟨rfl, List.forall_mem_singleton.2 rfl⟩)

/-- Where the escaped text is closed, the text is. -/
theorem afterClosing?_escaped (cs : List Char) :
    afterClosing? (escaped cs) = (afterClosing? cs).map escaped := by
  fun_induction afterClosing? cs with
  | case1 rest => rfl
  | case2 c rest hnot ih =>
    have hplain : ¬ closing <+: c :: rest := by
      rw [closing_prefix_iff]
      rintro ⟨behind, rfl, rfl⟩
      exact hnot behind rfl rfl
    rw [← closing_prefix_escaped_iff, escaped_cons] at hplain
    rw [escaped_cons, ← ih]
    rcases stringChar_cases c with ⟨hself, -, -⟩ | ⟨more, hmore, -, -, hclose⟩
    · rw [hself] at hplain ⊢
      exact afterClosing?_cons hplain
    · -- the search for a closing passes over an escape
      rw [hmore]
      exact afterClosing?_append_of_not_mem (by simp [hclose]) _
  | case3 => rfl

/-- **Stripping expressions and escaping** do not depend on their order. -/
theorem stripExpressions_escaped (cs : List Char) :
    stripExpressions (escaped cs) = escaped (stripExpressions cs) := by
  -- along the stripping of the text: what is open in it is closed where its escapes are
  fun_induction stripExpressions cs with
  | case1 rest after hafter _ ih =>
    have hbehind : afterClosing? (escaped rest) = some (escaped after) := by
      rw [afterClosing?_escaped, hafter]
      rfl
    rw [← ih]
    exact stripExpressions_of_afterClosing hbehind
  | case2 rest hnone ih =>
    have hbehind : afterClosing? (escaped rest) = none := by
      rw [afterClosing?_escaped, hnone]
      rfl
    exact (stripExpressions_of_none hbehind).trans (congrArg ('\x7b' :: ·) ih)
  | case3 c rest hnot ih =>
    have hplain : ¬ opening <+: c :: rest := by
      rintro ⟨behind, hbehind⟩
      obtain ⟨rfl, hrest⟩ := List.cons.inj hbehind
      exact hnot behind rfl hrest.symm
    rw [← opening_prefix_escaped_iff, escaped_cons] at hplain
    rw [escaped_cons, escaped_cons, ← ih]
    rcases stringChar_cases c with ⟨hself, -, -⟩ | ⟨more, hmore, -, hopen, -⟩
    · rw [hself] at hplain ⊢
      exact stripExpressions_cons hplain
    · rw [hmore]
      exact stripExpressions_append_of_not_mem (by simp [hopen]) _
  | case4 => simp [escaped, stripExpressions]

/-- Escaping opens nothing. -/
theorem opening_infix_of_escaped {cs : List Char} (h : opening <:+: escaped cs) :
    opening <:+: cs := by
  induction cs with
  | nil => exact h
  | cons c cs ih =>
    rw [List.infix_cons_iff, ← opening_prefix_escaped_iff]
    rw [escaped_cons] at h ⊢
    rcases stringChar_cases c with ⟨hself, -, -⟩ | ⟨more, hmore, -, hopen, -⟩
    · rw [hself] at h ⊢
      exact (List.infix_cons_iff.1 h).imp_right ih
    · rw [hmore] at h
      exact .inr (ih (opening_infix_of_append (by simp [hopen]) h))

/-- A text is left open where its escapes are. -/
theorem leavesOpen_of_escaped {cs : List Char} (h : LeavesOpen (escaped cs)) : LeavesOpen cs := by
  rw [LeavesOpen, stripExpressions_escaped] at h
  exact opening_infix_of_escaped h

/-! ## Names in escaped texts -/

theorem nameBeforeBrace?_escaped (cs : List Char) :
    nameBeforeBrace? (escaped cs) = (nameBeforeBrace? cs).filter (·.all (·.toNat < 0x80)) := by
  refine Option.ext fun name => ?_
  rw [Option.filter_eq_some_iff, nameBeforeBrace?_eq_some_iff, nameBeforeBrace?_eq_some_iff,
    and_assoc]
  refine and_congr_right fun hname => ?_
  -- neither a name nor the brace behind it holds a backslash
  have hslash : '\\' ∉ name ++ ['\x7d'] := by
    rw [List.mem_append, List.mem_singleton, not_or]
    exact ⟨fun hmem => absurd (hname.isNamePart _ hmem) (by decide), by decide⟩
  have hself : (∀ c ∈ name ++ ['\x7d'], stringChar c = [c])
      ↔ name.all (·.toNat < 0x80) = true := by
    have hbrace : ∀ c ∈ ['\x7d'], stringChar c = [c] := List.forall_mem_singleton.2 rfl
    rw [List.forall_mem_append, List.all_eq_true]
    refine (and_iff_left hbrace).trans (forall₂_congr fun c hc => ?_)
    rw [stringChar_eq_self_iff (hname.isNamePart c hc), decide_eq_true_iff]
  rw [prefix_escaped_iff hslash, hself]

theorem bracedNames_escaped (cs : List Char) :
    bracedNames (escaped cs) = (bracedNames cs).filter (·.all (·.toNat < 0x80)) := by
  induction cs with
  | nil => rfl
  | cons c cs ih =>
    by_cases hc : c = '\x7b'
    · subst hc
      show bracedNames ('\x7b' :: escaped cs) = _
      have hopen : ('\x7b' == '\x7b') = true := rfl
      rw [bracedNames, bracedNames, if_pos hopen, if_pos hopen, nameBeforeBrace?_escaped, ih]
      cases nameBeforeBrace? cs with
      | none => rfl
      | some name =>
        rw [Option.filter_some, List.filter_cons]
        by_cases hascii : name.all (·.toNat < 0x80) = true
        · rw [if_pos hascii, if_pos hascii]
        · rw [if_neg hascii, if_neg hascii]
    · -- without an opening brace no name begins, neither at the character nor in its escape
      have hopen : '\x7b' ∉ stringChar c := by
        rcases stringChar_cases c with ⟨hself, -, -⟩ | ⟨more, hmore, -, hmoreOpen, -⟩
        · rw [hself]
          exact fun hmem => hc (List.mem_singleton.1 hmem).symm
        · rw [hmore]
          simp [hmoreOpen]
      have hplain : '\x7b' ∉ [c] := fun hmem => hc (List.mem_singleton.1 hmem).symm
      rw [escaped_cons, bracedNames_append_of_not_mem hopen, ih,
        ← bracedNames_append_of_not_mem hplain cs]
      rfl

/-- **The escapes of a text keep its ASCII placeholders**, and no others. -/
theorem placeholders_escaped (cs : List Char) :
    placeholders (escaped cs) = (placeholders cs).filter Text.isAscii := by
  rw [placeholders, stripExpressions_escaped, bracedNames_escaped, placeholders, List.filter_map]
  refine congrArg (List.map String.ofList) (List.filter_congr fun name _ => ?_)
  simp [Text.isAscii]

end Json

end FlowLint
