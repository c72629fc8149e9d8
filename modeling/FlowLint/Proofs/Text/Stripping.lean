import FlowLint.Proofs.Text.Expressions

/-!
# Texts without expressions

Where an expression is cut out, what stood in front of it meets what stood behind it. Two braces can
meet there, but no expression comes of that: an opening brace never stands directly in front of an
expression, since the expression would begin with it. So all expressions are gone after one pass.

* **`Cut.of_bare`**: a text without expressions is a row of plain characters, and stays as it is
  when expressions are stripped.
* **`head?_of_stripExpressions`**: the seam. An opening brace in front of what is left was the first
  character before.
* **`strips_every_expression`**: one pass strips every expression, and a second one nothing more.
-/

namespace FlowLint.Text

/-- An opening stands in the text, and somewhere behind it a closing. -/
def HasExpression (cs : List Char) : Prop :=
  ∃ front inside back, cs = front ++ opening ++ inside ++ closing ++ back

/-! ## Where an expression begins -/

theorem not_hasExpression_nil : ¬ HasExpression [] := by
  rintro ⟨front, inside, back, htext⟩
  simp [opening] at htext

/-- An expression begins at the first character or behind it. -/
theorem hasExpression_cons_iff {c : Char} {cs : List Char} :
    HasExpression (c :: cs) ↔ StartsExpression (c :: cs) ∨ HasExpression cs := by
  constructor
  · rintro ⟨front, inside, back, htext⟩
    cases front with
    | nil =>
      refine .inl ⟨inside ++ closing ++ back, ?_, inside, back, rfl⟩
      simpa using htext
    | cons d front =>
      obtain ⟨-, rfl⟩ := List.cons.inj htext
      exact .inr ⟨front, inside, back, rfl⟩
  · rintro (⟨behind, htext, inside, back, rfl⟩ | ⟨front, inside, back, rfl⟩)
    · exact ⟨[], inside, back, by simpa using htext⟩
    · exact ⟨c :: front, inside, back, rfl⟩

theorem HasExpression.isClosed {cs : List Char} (h : HasExpression cs) : closing <:+: cs := by
  obtain ⟨front, inside, back, rfl⟩ := h
  exact ⟨front ++ opening ++ inside, back, rfl⟩

/-! ## Nothing to strip -/

/-- **A text without expressions is a row of plain characters.** -/
theorem Cut.of_bare {cs : List Char} (h : ¬ HasExpression cs) : Cut cs (cs.map .plain) := by
  induction cs with
  | nil => exact .nil
  | cons c cs ih =>
    obtain ⟨houtside, hrest⟩ := not_or.1 (mt hasExpression_cons_iff.2 h)
    exact .plain houtside (ih hrest)

theorem stripExpressions_of_bare {cs : List Char} (h : ¬ HasExpression cs) :
    stripExpressions cs = cs := by
  rw [← (Cut.of_bare h).plainText_eq, plainText, List.filterMap_map]
  exact List.filterMap_some

/-! ## Nothing left -/

/-- What is left begins with an opening brace only where the text does, since any other character in
front of a text stays there. -/
theorem head?_of_stripExpressions {cs : List Char}
    (h : (stripExpressions cs).head? = some '\x7b') : cs.head? = some '\x7b' := by
  cases cs with
  | nil => simp [stripExpressions] at h
  | cons c cs =>
    by_contra hbrace
    have hplain : ¬ opening <+: c :: cs := by
      rintro ⟨behind, hbehind⟩
      rw [← hbehind] at hbrace
      exact hbrace rfl
    rw [stripExpressions_cons hplain] at h
    exact hbrace h

/-- **No expression is left.** -/
theorem not_hasExpression_stripExpressions (cs : List Char) :
    ¬ HasExpression (stripExpressions cs) := by
  fun_induction stripExpressions cs with
  | case1 rest after hafter _ ih => exact ih
  | case2 rest hnone ih =>
    -- an opening stays when nothing is closed from there on, so all the rest stays with it
    have hopen : ¬ closing <:+: '\x7b' :: '\x7b' :: rest := by
      rw [List.infix_cons_iff, List.infix_cons_iff, not_or, not_or]
      exact ⟨by simp [closing], by simp [closing], afterClosing?_eq_none_iff.1 hnone⟩
    have hrest : ¬ HasExpression ('\x7b' :: rest) := fun hfound =>
      hopen (List.infix_cons hfound.isClosed)
    rw [stripExpressions_of_bare hrest]
    exact fun hfound => hopen hfound.isClosed
  | case3 c rest hnot ih =>
    rw [hasExpression_cons_iff, not_or]
    refine ⟨?_, ih⟩
    rintro ⟨behind, hbehind, -⟩
    obtain ⟨rfl, htail⟩ := List.cons.inj hbehind
    -- the second brace of an opening that is left stood next to the first one before
    have hhead : rest.head? = some '\x7b' := head?_of_stripExpressions (by rw [htail]; rfl)
    obtain ⟨after, rfl⟩ := List.head?_eq_some_iff.1 hhead
    exact hnot after rfl rfl
  | case4 => exact not_hasExpression_nil

/-- **One pass strips every expression.** What is left are the characters outside the expressions of
the text. No opening among them is closed behind it, so a second pass finds nothing to cut out, and
a text stays as it is exactly when it has no expression. -/
theorem strips_every_expression (cs : List Char) :
    (∃ parts, Cut cs parts ∧ plainText parts = stripExpressions cs)
    ∧ ¬ HasExpression (stripExpressions cs)
    ∧ Cut (stripExpressions cs) ((stripExpressions cs).map .plain)
    ∧ stripExpressions (stripExpressions cs) = stripExpressions cs
    ∧ (stripExpressions cs = cs ↔ ¬ HasExpression cs) := by
  have hbare := not_hasExpression_stripExpressions cs
  refine ⟨exists_cut cs, hbare, .of_bare hbare, stripExpressions_of_bare hbare, ?_,
    stripExpressions_of_bare⟩
  intro hsame
  rwa [hsame] at hbare

/-- Closing braces can meet where an expression is cut out. -/
example : stripExpressions "a\x7d\x7b\x7bx\x7d\x7d\x7d".toList = "a\x7d\x7d".toList := by cbv

end FlowLint.Text
