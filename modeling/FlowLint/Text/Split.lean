/-!
# Cutting texts at characters

The text before and after the first or the last occurrence of a character.
-/

namespace FlowLint.Text

/-- The text before and after the first occurrence of a character; the second part is `none` when
the character does not occur. -/
def splitFirst (c : Char) : List Char → List Char × Option (List Char)
  | [] => ([], none)
  | d :: rest =>
    if d == c then ([], some rest)
    else
      let (before, after) := splitFirst c rest
      (d :: before, after)

/-- The text after the last occurrence of a character, or the whole text when it does not occur. -/
def afterLast (c : Char) (cs : List Char) : List Char :=
  (cs.reverse.takeWhile (· != c)).reverse

/-- The parts of a text between the occurrences of a character. -/
def splitAll (c : Char) : List Char → List (List Char)
  | [] => [[]]
  | d :: rest =>
    if d == c then [] :: splitAll c rest
    else
      match splitAll c rest with
      | part :: parts => (d :: part) :: parts
      | [] => [[d]]

/-- The texts with a text in front of the first of them. -/
def withFront (front : List Char) : List (List Char) → List (List Char)
  | part :: parts => (front ++ part) :: parts
  | [] => [front]

theorem splitFirst_of_not_mem {c : Char} {cs : List Char} (h : c ∉ cs) :
    splitFirst c cs = (cs, none) := by
  induction cs with
  | nil => rfl
  | cons d rest ih =>
    simp only [List.mem_cons, not_or] at h
    have hd : (d == c) = false := by simpa using fun e => h.1 e.symm
    simp [splitFirst, hd, ih h.2]

theorem splitFirst_append {c : Char} {before : List Char} (h : c ∉ before) (after : List Char) :
    splitFirst c (before ++ c :: after) = (before, some after) := by
  induction before with
  | nil => simp [splitFirst]
  | cons d rest ih =>
    simp only [List.mem_cons, not_or] at h
    have hd : (d == c) = false := by simpa using fun e => h.1 e.symm
    simp [splitFirst, hd, ih h.2]

theorem eq_append_of_splitFirst {c : Char} {cs before after : List Char}
    (h : splitFirst c cs = (before, some after)) : cs = before ++ c :: after := by
  induction cs generalizing before with
  | nil => simp [splitFirst] at h
  | cons d rest ih =>
    rw [splitFirst] at h
    split at h
    · simp_all
    · rename_i hd
      obtain ⟨rfl, found⟩ := Prod.mk.injEq .. ▸ h
      rw [List.cons_append, ← ih (Prod.ext rfl found)]

theorem not_mem_of_splitFirst {c : Char} {cs before : List Char}
    (h : splitFirst c cs = (before, none)) : c ∉ cs := by
  induction cs generalizing before with
  | nil => exact List.not_mem_nil
  | cons d rest ih =>
    rw [splitFirst] at h
    split at h
    · exact nomatch h
    · rename_i hd
      obtain ⟨-, found⟩ := Prod.mk.injEq .. ▸ h
      have hne : c ≠ d := fun e => hd (beq_iff_eq.2 e.symm)
      simpa [hne] using ih (Prod.ext rfl found)

/-- A text behind another one does not change where the first occurrence in that one is. -/
theorem splitFirst_append_of_some {c : Char} {cs before after : List Char}
    (h : splitFirst c cs = (before, some after)) (back : List Char) :
    splitFirst c (cs ++ back) = (before, some (after ++ back)) := by
  induction cs generalizing before with
  | nil => exact nomatch h
  | cons d rest ih =>
    rw [splitFirst] at h
    rw [List.cons_append, splitFirst]
    split at h
    · rename_i hd
      cases h
      rw [if_pos hd]
    · rename_i hd
      obtain ⟨rfl, found⟩ := Prod.mk.injEq .. ▸ h
      rw [if_neg hd, ih (Prod.ext rfl found)]

theorem splitAll_ne_nil (c : Char) (cs : List Char) : splitAll c cs ≠ [] := by
  cases cs with
  | nil => simp [splitAll]
  | cons d rest =>
    rw [splitAll]
    split
    · simp
    · split <;> simp

theorem splitAll_of_not_mem {c : Char} {cs : List Char} (h : c ∉ cs) : splitAll c cs = [cs] := by
  induction cs with
  | nil => rfl
  | cons d rest ih =>
    simp only [List.mem_cons, not_or] at h
    have hd : (d == c) = false := by simpa using fun e => h.1 e.symm
    simp [splitAll, hd, ih h.2]

theorem splitAll_append {c : Char} {front : List Char} (h : c ∉ front) (rest : List Char) :
    splitAll c (front ++ c :: rest) = front :: splitAll c rest := by
  induction front with
  | nil => simp [splitAll]
  | cons d front ih =>
    simp only [List.mem_cons, not_or] at h
    have hd : (d == c) = false := by simpa using fun e => h.1 e.symm
    simp [splitAll, hd, ih h.2]

/-- Parts without the character are the parts of the text that they make with the character between
them. -/
theorem splitAll_flatMap {c : Char} {first : List Char} {more : List (List Char)}
    (hfirst : c ∉ first) (hmore : ∀ part ∈ more, c ∉ part) :
    splitAll c (first ++ more.flatMap (c :: ·)) = first :: more := by
  induction more generalizing first with
  | nil => rw [List.flatMap_nil, List.append_nil, splitAll_of_not_mem hfirst]
  | cons part more ih =>
    obtain ⟨hpart, hmore⟩ := List.forall_mem_cons.1 hmore
    rw [List.flatMap_cons, List.cons_append, splitAll_append hfirst, ih hpart hmore]

theorem not_mem_of_splitAll {c : Char} {cs part : List Char} (h : part ∈ splitAll c cs) :
    c ∉ part := by
  induction cs generalizing part with
  | nil => simp_all [splitAll]
  | cons d rest ih =>
    rw [splitAll] at h
    split at h
    · rcases List.mem_cons.1 h with rfl | h
      · exact List.not_mem_nil
      · exact ih h
    · rename_i hd
      obtain ⟨first, more, hparts⟩ := List.exists_cons_of_ne_nil (splitAll_ne_nil c rest)
      rw [hparts] at h ih
      rcases List.mem_cons.1 h with rfl | h
      · have hne : c ≠ d := fun e => hd (beq_iff_eq.2 e.symm)
        simpa [hne] using ih List.mem_cons_self
      · exact ih (List.mem_cons_of_mem _ h)

/-- The parts of a text, with the character between them again, are the text. -/
theorem append_of_splitAll {c : Char} {cs first : List Char} {more : List (List Char)}
    (h : splitAll c cs = first :: more) : first ++ more.flatMap (c :: ·) = cs := by
  induction cs generalizing first more with
  | nil => simp_all [splitAll]
  | cons d rest ih =>
    rw [splitAll] at h
    split at h
    · rename_i hd
      obtain ⟨rfl, rfl⟩ := h
      obtain ⟨part, parts, hp⟩ := List.exists_cons_of_ne_nil (splitAll_ne_nil c rest)
      rw [hp, List.nil_append, List.flatMap_cons, List.cons_append, ih hp, eq_of_beq hd]
    · split at h
      · rename_i found
        obtain ⟨rfl, rfl⟩ := h
        rw [List.cons_append, ih found]
      · rename_i found
        exact absurd found (splitAll_ne_nil c rest)

end FlowLint.Text
