import FlowLint.File.Path

/-!
# Texts of paths

A text names a path, and the path has a text of its own, which is another one when there are
slashes or dots in the first that say nothing. Its own text names the same path
(`Path.ofText_text`), so that nothing is lost when a path goes through its text.
-/

namespace FlowLint

namespace Path

/-- A path as a text names it. -/
structure Normal (path : Path) : Prop where
  root_le : path.root ≤ 2
  parts : ∀ part ∈ path.parts, part.toList ≠ [] ∧ part.toList ≠ ['.'] ∧ '/' ∉ part.toList

theorem rootOf_le (cs : List Char) : rootOf cs ≤ 2 := by
  unfold rootOf
  split <;> decide

theorem normal_ofText (s : String) : (ofText s).Normal where
  root_le := rootOf_le s.toList
  parts := by
    intro part hmem
    obtain ⟨cs, hcs, rfl⟩ := List.mem_map.1 hmem
    obtain ⟨hpart, hkept⟩ := List.mem_filter.1 hcs
    rw [Bool.and_eq_true, bne_iff_ne, bne_iff_ne] at hkept
    rw [String.toList_ofList]
    exact ⟨hkept.1, hkept.2, Text.not_mem_of_splitAll hpart⟩

/-! ## Reading the text of a path -/

theorem intercalate_cons (c : Char) (first : List Char) (more : List (List Char)) :
    [c].intercalate (first :: more) = first ++ more.flatMap (c :: ·) := by
  induction more generalizing first with
  | nil => simp
  | cons second more ih =>
    rw [List.intercalate_cons_cons, ih, List.flatMap_cons]
    simp

theorem splitAll_slashes (count : Nat) (cs : List Char) :
    Text.splitAll '/' (List.replicate count '/' ++ cs)
      = List.replicate count [] ++ Text.splitAll '/' cs := by
  induction count with
  | zero => rfl
  | succ count ih =>
    rw [List.replicate_succ, List.cons_append, Text.splitAll, if_pos (beq_self_eq_true _), ih]
    rfl

/-- The slashes in front are counted when no other one follows them. -/
theorem rootOf_slashes {count : Nat} (hcount : count ≤ 2) {cs : List Char}
    (hcs : cs.head? ≠ some '/') : rootOf (List.replicate count '/' ++ cs) = count := by
  have hslashes : ∀ c ∈ List.replicate count '/', (c == '/') = true := by
    intro c hc
    rw [List.eq_of_mem_replicate hc]
    rfl
  have hnone : cs.takeWhile (· == '/') = [] := by
    cases cs with
    | nil => rfl
    | cons c rest =>
      have hc : (c == '/') = false := beq_eq_false_iff_ne.2 fun e => hcs (by rw [e]; rfl)
      rw [List.takeWhile_cons, hc]
      rfl
  have hlength : ((List.replicate count '/' ++ cs).takeWhile (· == '/')).length = count := by
    rw [List.takeWhile_append_of_pos hslashes, hnone, List.append_nil, List.length_replicate]
  rw [rootOf, hlength]
  match count, hcount with
  | 0, _ => rfl
  | 1, _ => rfl
  | 2, _ => rfl

/-- The parts of slashes and of the parts of a path with slashes between them are these parts. -/
theorem parts_of_joined (count : Nat) {parts : List String}
    (h : ∀ part ∈ parts, part.toList ≠ [] ∧ part.toList ≠ ['.'] ∧ '/' ∉ part.toList) :
    ((Text.splitAll '/'
        (List.replicate count '/' ++ ['/'].intercalate (parts.map String.toList))).filter
        fun part => part != [] && part != ['.']).map String.ofList = parts := by
  have hslashes : (List.replicate count ([] : List Char)).filter
      (fun part => part != [] && part != ['.']) = [] := by
    rw [List.filter_replicate_of_neg (by decide)]
  rw [splitAll_slashes, List.filter_append, hslashes, List.nil_append]
  cases parts with
  | nil => rfl
  | cons first more =>
    obtain ⟨⟨-, -, hfirst⟩, hmore⟩ := List.forall_mem_cons.1 h
    have hkept : ((first :: more).map String.toList).filter
          (fun part => part != [] && part != ['.'])
        = (first :: more).map String.toList := by
      rw [List.filter_eq_self]
      intro cs hcs
      obtain ⟨part, hpart, rfl⟩ := List.mem_map.1 hcs
      obtain ⟨hne, hdot, -⟩ := h part hpart
      rw [Bool.and_eq_true, bne_iff_ne, bne_iff_ne]
      exact ⟨hne, hdot⟩
    have hfree : ∀ cs ∈ more.map String.toList, '/' ∉ cs := by
      intro cs hcs
      obtain ⟨part, hpart, rfl⟩ := List.mem_map.1 hcs
      exact (hmore part hpart).2.2
    rw [List.map_cons, intercalate_cons, Text.splitAll_flatMap hfirst hfree, ← List.map_cons, hkept,
      List.map_map]
    simp

theorem ofText_text_of_normal {path : Path} (h : path.Normal) : ofText path.text = path := by
  obtain ⟨root, parts⟩ := path
  obtain ⟨hroot, hparts⟩ := h
  by_cases hdot : root = 0 ∧ parts = []
  · obtain ⟨rfl, rfl⟩ := hdot
    rfl
  · have htext : (text ⟨root, parts⟩).toList
        = List.replicate root '/' ++ ['/'].intercalate (parts.map String.toList) := by
      rw [text, if_neg (by simpa using hdot), String.toList_append, String.toList_ofList,
        String.toList_intercalate]
      rfl
    have hhead : (['/'].intercalate (parts.map String.toList)).head? ≠ some '/' := by
      cases parts with
      | nil => exact nofun
      | cons first more =>
        obtain ⟨⟨hne, -, hfirst⟩, -⟩ := List.forall_mem_cons.1 hparts
        obtain ⟨c, rest, hcs⟩ := List.exists_cons_of_ne_nil hne
        rw [List.map_cons, intercalate_cons, hcs]
        rw [hcs] at hfirst
        intro hc
        exact hfirst (List.mem_cons.2 (.inl (Option.some.inj hc).symm))
    rw [ofText, htext, rootOf_slashes hroot hhead, parts_of_joined root hparts]

/-- **The text of a path names it.** -/
theorem ofText_text (s : String) : ofText (ofText s).text = ofText s :=
  ofText_text_of_normal (normal_ofText s)

end Path

end FlowLint
