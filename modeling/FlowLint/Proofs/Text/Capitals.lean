import FlowLint.Text.UpperCase
import Mathlib.Data.List.Infix

/-!
# Capital forms in ASCII

A word of ASCII capitals is the capital form of more texts than those with its letters in either
case. Ten characters beyond ASCII have a capital form of ASCII letters too: the long s has S, and
the ligature of long s and t has ST.

* **`exists_asciiForm`**: no other character beyond ASCII has such a form. The tables of capital
  forms are gone through once, entry by entry.
* **`spellings`**: the texts with a word as their capital form, up to the case of ASCII letters.
* **`upper_eq_iff`**: no other text has the word as its capital form.
-/

namespace FlowLint.Text

/-! ## Single characters -/

/-- The characters beyond ASCII whose capital form is one or more ASCII letters, with the first of
these letters and the others. -/
def asciiForms : List (Char × Char × List Char) :=
  [('ß', 'S', ['S']), ('ı', 'I', []), ('ſ', 'S', []), ('ﬀ', 'F', ['F']), ('ﬁ', 'F', ['I']),
    ('ﬂ', 'F', ['L']), ('ﬃ', 'F', ['F', 'I']), ('ﬄ', 'F', ['F', 'L']), ('ﬅ', 'S', ['T']),
    ('ﬆ', 'S', ['T'])]

theorem upperChar_of_mem_asciiForms :
    ∀ form ∈ asciiForms, upperChar form.1 = form.2.1 :: form.2.2 := by
  decide

theorem not_ascii_of_mem_asciiForms : ∀ form ∈ asciiForms, 0x80 ≤ form.1.toNat := by
  decide

/-- Of the characters with a form of several characters, some have one beyond ASCII in it, and the
others are listed. -/
theorem expandingUpperCase_cases : ∀ entry ∈ expandingUpperCase,
    (∃ code ∈ entry.2, 0x80 ≤ (Char.ofNat code).toNat)
      ∨ ∃ form ∈ asciiForms, form.1 = Char.ofNat entry.1 := by
  decide

/-- The forms on a run are characters beyond ASCII, or the run is one character that is listed. -/
theorem upperRuns_cases : ∀ run ∈ upperRuns,
    (0x80 ≤ (run.first : Int) + run.shift
        ∧ ((run.last : Int) + run.shift < 0xD800
          ∨ 0xDFFF < (run.first : Int) + run.shift ∧ (run.last : Int) + run.shift < 0x110000))
      ∨ run.first = run.last ∧ ∃ form ∈ asciiForms, form.1 = Char.ofNat run.first := by
  decide +kernel

/-- A character on a run has a form beyond ASCII, or it is listed. -/
theorem image_cases {run : CaseRun} (hrun : run ∈ upperRuns) {c : Char}
    (hcovers : run.covers c.toNat = true) :
    0x80 ≤ (run.image c).toNat ∨ ∃ form ∈ asciiForms, form.1 = c := by
  have hcovered : run.first ≤ c.toNat ∧ c.toNat ≤ run.last := by
    rw [CaseRun.covers, Bool.and_eq_true, Bool.and_eq_true, decide_eq_true_eq,
      decide_eq_true_eq] at hcovers
    exact hcovers.1
  rcases upperRuns_cases run hrun with ⟨hbeyond, hrange⟩ | ⟨hone, form, hform, hchar⟩
  · left
    -- between the ends of the run the form is a character, and none of ASCII
    have hcode : 0x80 ≤ ((c.toNat : Int) + run.shift).toNat := by omega
    have hvalid : ((c.toNat : Int) + run.shift).toNat.isValidChar := by
      show _ < 0xD800 ∨ 0xDFFF < _ ∧ _ < 0x110000
      omega
    rw [CaseRun.image, Char.ofNat, dif_pos hvalid]
    exact hcode
  · right
    have hfirst : c.toNat = run.first := by omega
    exact ⟨form, hform, by rw [hchar, ← hfirst, Char.ofNat_toNat]⟩

/-- **A character beyond ASCII with a capital form in ASCII is listed.** -/
theorem exists_asciiForm {c : Char} (hc : 0x80 ≤ c.toNat)
    (hform : ∀ d ∈ upperChar c, d.toNat < 0x80) : ∃ form ∈ asciiForms, form.1 = c := by
  have hbeyond : ¬ c.toNat < 0x80 := Nat.not_lt.2 hc
  rw [upperChar, if_neg hbeyond] at hform
  split at hform
  · next codes hcodes =>
    obtain ⟨front, back, htable, -⟩ := List.lookup_eq_some_iff.1 hcodes
    have hmem : (c.toNat, codes) ∈ expandingUpperCase := by
      rw [htable]
      exact List.mem_append_right front List.mem_cons_self
    rcases expandingUpperCase_cases _ hmem with ⟨code, hcode, hlarge⟩ | ⟨form, hlisted, hchar⟩
    · have hsmall := hform (Char.ofNat code) (List.mem_map_of_mem hcode)
      omega
    · exact ⟨form, hlisted, by rw [hchar, Char.ofNat_toNat]⟩
  · split at hform
    · next run hrun =>
      have hcovers : run.covers c.toNat = true :=
        List.find?_some (p := fun run : CaseRun => run.covers c.toNat) hrun
      rcases image_cases (List.mem_of_find?_eq_some hrun) hcovers with hlarge | hlisted
      · have hsmall := hform (run.image c) (List.mem_singleton_self _)
        omega
      · exact hlisted
    · -- a character without another form is its own
      exact absurd (hform c (List.mem_singleton_self c)) hbeyond

theorem upperChar_of_ascii {c : Char} (hc : c.toNat < 0x80) : upperChar c = [c.toUpper] :=
  if_pos hc

theorem toNat_toUpper_lt {c : Char} (hc : c.toNat < 0x80) : c.toUpper.toNat < 0x80 := by
  have hall : ∀ n < 0x80, (Char.ofNat n).toUpper.toNat < 0x80 := by decide
  have hone := hall c.toNat hc
  rwa [Char.ofNat_toNat] at hone

theorem toUpper_of_not_ascii {c : Char} (hc : 0x80 ≤ c.toNat) : c.toUpper = c := by
  have hletter : ¬ ('a'.val ≤ c.val ∧ c.val ≤ 'z'.val) := by
    rintro ⟨-, hle⟩
    have hsmall : c.toNat ≤ 0x7A := UInt32.le_iff_toNat_le.1 hle
    omega
  exact dif_neg hletter

/-! ## Words -/

/-- The texts with a word of ASCII capitals as their capital form, with their own ASCII letters in
capitals. Each starts with the first letter of the word, or with a character that stands for some
letters at the front of it. -/
def spellings : List Char → List (List Char)
  | [] => [[]]
  | d :: rest =>
    (spellings rest).map (d :: ·) ++ asciiForms.flatMap fun form =>
      if form.2.1 = d ∧ form.2.2 <+: rest then
        (spellings (rest.drop form.2.2.length)).map (form.1 :: ·)
      else []
termination_by w => w.length
decreasing_by
  all_goals
    simp only [List.length_cons, List.length_drop]
    omega

theorem nil_mem_spellings_iff {w : List Char} : [] ∈ spellings w ↔ w = [] := by
  cases w with
  | nil => simp [spellings]
  | cons d rest =>
    rw [spellings]
    refine iff_of_false ?_ (List.cons_ne_nil d rest)
    rw [List.mem_append, List.mem_flatMap]
    rintro (hmem | ⟨form, -, hmem⟩)
    · simp at hmem
    · split at hmem
      · simp at hmem
      · exact absurd hmem List.not_mem_nil

theorem cons_mem_spellings_iff {c : Char} {cs w : List Char} :
    c :: cs ∈ spellings w
      ↔ (∃ rest, w = c :: rest ∧ cs ∈ spellings rest)
        ∨ ∃ form ∈ asciiForms, form.1 = c
          ∧ ∃ rest, w = form.2.1 :: form.2.2 ++ rest ∧ cs ∈ spellings rest := by
  cases w with
  | nil => simp [spellings]
  | cons d tail =>
    rw [spellings, List.mem_append, List.mem_flatMap]
    refine or_congr ?_ (exists_congr fun form => and_congr_right fun _ => ?_)
    · simp [and_comm, eq_comm]
    · by_cases hfront : form.2.1 = d ∧ form.2.2 <+: tail
      · obtain ⟨rfl, rest, rfl⟩ := hfront
        simp [and_comm]
      · rw [if_neg hfront]
        refine iff_of_false List.not_mem_nil ?_
        rintro ⟨-, rest, hword, -⟩
        rw [List.cons_append, List.cons.injEq] at hword
        exact hfront ⟨hword.1.symm, rest, hword.2.symm⟩

/-- **The texts with a word as their capital form.** The induction is on the text: the capital form
of its first character stands at the front of the word. -/
theorem upper_eq_iff {cs w : List Char} (hw : ∀ d ∈ w, d.toNat < 0x80) :
    upper cs = w ↔ cs.map Char.toUpper ∈ spellings w := by
  induction cs generalizing w with
  | nil =>
    rw [List.map_nil, nil_mem_spellings_iff]
    exact eq_comm
  | cons c rest ih =>
    have hupper : upper (c :: rest) = upperChar c ++ upper rest := List.flatMap_cons
    rw [hupper, List.map_cons, cons_mem_spellings_iff]
    by_cases hc : c.toNat < 0x80
    · -- an ASCII character stands for itself, and is none of those that are listed
      have hlisted : ¬ ∃ form ∈ asciiForms, form.1 = c.toUpper
          ∧ ∃ back, w = form.2.1 :: form.2.2 ++ back ∧ rest.map Char.toUpper ∈ spellings back := by
        rintro ⟨form, hform, hchar, -⟩
        have hbeyond := not_ascii_of_mem_asciiForms form hform
        have hsmall := toNat_toUpper_lt hc
        rw [hchar] at hbeyond
        omega
      rw [or_iff_left hlisted, upperChar_of_ascii hc]
      constructor
      · rintro rfl
        exact ⟨upper rest, rfl, (ih fun d hd => hw d (List.mem_cons_of_mem _ hd)).1 rfl⟩
      · rintro ⟨back, rfl, hmem⟩
        rw [(ih fun d hd => hw d (List.mem_cons_of_mem _ hd)).2 hmem]
        rfl
    · have hbeyond : 0x80 ≤ c.toNat := Nat.not_lt.1 hc
      -- a character beyond ASCII does not stand in the word
      have hfront : ¬ ∃ back, w = c.toUpper :: back ∧ rest.map Char.toUpper ∈ spellings back := by
        rintro ⟨back, rfl, -⟩
        have hsmall := hw c.toUpper List.mem_cons_self
        rw [toUpper_of_not_ascii hbeyond] at hsmall
        exact hc hsmall
      rw [or_iff_right hfront, toUpper_of_not_ascii hbeyond]
      constructor
      · rintro rfl
        have hascii : ∀ d ∈ upperChar c, d.toNat < 0x80 := fun d hd =>
          hw d (List.mem_append_left _ hd)
        obtain ⟨form, hform, rfl⟩ := exists_asciiForm hbeyond hascii
        have hrest : ∀ d ∈ upper rest, d.toNat < 0x80 := fun d hd =>
          hw d (List.mem_append_right _ hd)
        refine ⟨form, hform, rfl, upper rest, ?_, (ih hrest).1 rfl⟩
        rw [upperChar_of_mem_asciiForms form hform]
      · rintro ⟨form, hform, rfl, back, rfl, hmem⟩
        have hback : ∀ d ∈ back, d.toNat < 0x80 := fun d hd =>
          hw d (List.mem_append_right _ hd)
        rw [(ih hback).2 hmem, upperChar_of_mem_asciiForms form hform]

example : spellings "POST".toList = ["POST".toList, "POſT".toList, "POﬅ".toList, "POﬆ".toList] := by
  cbv

end FlowLint.Text
