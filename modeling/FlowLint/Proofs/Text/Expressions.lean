import FlowLint.Text.Placeholder
import Mathlib.Data.List.TakeWhile
import Mathlib.Data.List.Infix

/-!
# Expressions and placeholders

A text is a row of parts (`Cut`): expressions, each from the leftmost opening that is closed at all
to the nearest closing behind it, and the characters outside of them. Placeholders are looked for in
these characters, put together.

* **`afterClosing?_eq_some_iff`**, **`afterClosing?_eq_none_iff`**: where what is open is closed.
* **`exists_cut`**, **`Cut.unique`**: every text has its parts, and has them in one way only. The
  characters outside the expressions are what is left when expressions are stripped.
* **`mem_bracedNames_iff`**: the names in single braces are those that stand in the text in braces.
* **`mem_placeholders_iff`**: the placeholders of a text are the names that are spelled outside its
  expressions.
* **`placeholders_append_cons`**: texts with a mark between them are looked through one by one,
  unless an expression reaches over the mark.
-/

namespace FlowLint.Text

/-! ## Parts -/

def opening : List Char := ['\x7b', '\x7b']

def closing : List Char := ['\x7d', '\x7d']

/-- A part of a text: a character outside the expressions, or an expression and what is in it. -/
inductive Part where
  | plain (c : Char)
  | expression (inside : List Char)

def Part.source : Part → List Char
  | .plain c => [c]
  | .expression inside => opening ++ inside ++ closing

def Part.char? : Part → Option Char
  | .plain c => some c
  | .expression _ => none

/-- The characters outside the expressions. -/
def plainText (parts : List Part) : List Char :=
  parts.filterMap Part.char?

/-- The text is closed for the first time between the two texts. -/
def ClosesAfter (cs inside rest : List Char) : Prop :=
  cs = inside ++ closing ++ rest ∧ ¬ closing <:+: inside ++ ['\x7d']

/-- The text starts with an opening that is closed somewhere behind it. -/
def StartsExpression (cs : List Char) : Prop :=
  ∃ behind, cs = opening ++ behind ∧ closing <:+: behind

/-- The parts of a text. An expression begins wherever one can, from the left, and ends at the
nearest closing. -/
inductive Cut : List Char → List Part → Prop
  | nil : Cut [] []
  | expression {cs inside rest : List Char} {parts : List Part}
      (closes : ClosesAfter cs inside rest) (more : Cut rest parts) :
      Cut (opening ++ cs) (.expression inside :: parts)
  | plain {c : Char} {rest : List Char} {parts : List Part}
      (outside : ¬ StartsExpression (c :: rest)) (more : Cut rest parts) :
      Cut (c :: rest) (.plain c :: parts)

/-! ## Where an expression ends -/

theorem closing_prefix_iff {c : Char} {cs : List Char} :
    closing <+: c :: cs ↔ ∃ rest, c = '\x7d' ∧ cs = '\x7d' :: rest := by
  constructor
  · rintro ⟨rest, hrest⟩
    obtain ⟨hc, hcs⟩ := List.cons.inj hrest
    exact ⟨rest, hc.symm, hcs.symm⟩
  · rintro ⟨rest, rfl, rfl⟩
    exact ⟨rest, rfl⟩

/-- **Nothing is closed** where no closing stands. -/
theorem afterClosing?_eq_none_iff {cs : List Char} :
    afterClosing? cs = none ↔ ¬ closing <:+: cs := by
  fun_induction afterClosing? cs with
  | case1 rest =>
    have hfront : closing <:+: '\x7d' :: '\x7d' :: rest := ⟨[], rest, rfl⟩
    simp [hfront]
  | case2 c rest hnot ih =>
    rw [ih, List.infix_cons_iff, not_or]
    refine (and_iff_right ?_).symm
    rw [closing_prefix_iff]
    rintro ⟨after, rfl, rfl⟩
    exact hnot after rfl rfl
  | case3 => exact iff_of_true rfl (by decide)

/-- **What is open is closed** at the first closing. -/
theorem afterClosing?_eq_some_iff {cs rest : List Char} :
    afterClosing? cs = some rest ↔ ∃ inside, ClosesAfter cs inside rest := by
  unfold ClosesAfter
  fun_induction afterClosing? cs with
  | case1 after =>
    constructor
    · intro h
      obtain rfl : after = rest := by simpa using h
      exact ⟨[], rfl, by decide⟩
    · rintro ⟨inside, htext, hfirst⟩
      -- the closing in front is the first one
      cases inside with
      | nil =>
        obtain ⟨-, htail⟩ := List.cons.inj htext
        obtain ⟨-, rfl⟩ := List.cons.inj htail
        rfl
      | cons c inside =>
        obtain ⟨rfl, htail⟩ := List.cons.inj htext
        refine absurd ?_ hfirst
        cases inside with
        | nil => exact ⟨[], [], rfl⟩
        | cons d inside =>
          obtain ⟨rfl, -⟩ := List.cons.inj htail
          exact ⟨[], inside ++ ['\x7d'], rfl⟩
  | case2 c after hnot ih =>
    rw [ih]
    constructor
    · rintro ⟨inside, rfl, hfirst⟩
      refine ⟨c :: inside, rfl, ?_⟩
      rw [List.cons_append, List.infix_cons_iff, closing_prefix_iff]
      rintro (⟨more, rfl, hmore⟩ | hinside)
      · refine hnot (more ++ ['\x7d'] ++ rest) rfl ?_
        rw [closing, show ['\x7d', '\x7d'] = ['\x7d'] ++ ['\x7d'] from rfl, ← List.append_assoc,
          hmore]
        rfl
      · exact hfirst hinside
    · rintro ⟨inside, htext, hfirst⟩
      cases inside with
      | nil =>
        obtain ⟨rfl, rfl⟩ := List.cons.inj htext
        exact absurd rfl (hnot rest rfl)
      | cons d inside =>
        obtain ⟨rfl, rfl⟩ := List.cons.inj htext
        refine ⟨inside, rfl, fun hinside => hfirst ?_⟩
        rw [List.cons_append, List.infix_cons_iff]
        exact .inr hinside
  | case3 =>
    refine iff_of_false (by simp) ?_
    rintro ⟨inside, htext, -⟩
    simp [closing] at htext

theorem ClosesAfter.unique {cs inside inside' rest rest' : List Char}
    (h : ClosesAfter cs inside rest) (h' : ClosesAfter cs inside' rest') :
    inside = inside' ∧ rest = rest' := by
  have hfound := afterClosing?_eq_some_iff.2 ⟨inside, h⟩
  have hfound' := afterClosing?_eq_some_iff.2 ⟨inside', h'⟩
  obtain rfl : rest = rest' := Option.some.inj (hfound.symm.trans hfound')
  have hsame : inside ++ (closing ++ rest) = inside' ++ (closing ++ rest) := by
    rw [← List.append_assoc, ← List.append_assoc, ← h.1, h'.1]
  exact ⟨List.append_cancel_right hsame, rfl⟩

theorem ClosesAfter.isClosed {cs inside rest : List Char} (h : ClosesAfter cs inside rest) :
    closing <:+: cs :=
  ⟨inside, rest, h.1.symm⟩

/-- A character that opens nothing stays. -/
theorem stripExpressions_cons {c : Char} {cs : List Char} (h : ¬ opening <+: c :: cs) :
    stripExpressions (c :: cs) = c :: stripExpressions cs := by
  rw [stripExpressions]
  rintro rest rfl rfl
  exact h ⟨rest, rfl⟩

/-- Nothing is stripped from a text without an opening. -/
theorem stripExpressions_eq_self {cs : List Char} (h : ¬ opening <:+: cs) :
    stripExpressions cs = cs := by
  induction cs with
  | nil => rw [stripExpressions]
  | cons c cs ih =>
    rw [List.infix_cons_iff, not_or] at h
    rw [stripExpressions_cons h.1, ih h.2]

/-! ## The parts of a text -/

theorem startsExpression_opening_iff {cs : List Char} :
    StartsExpression (opening ++ cs) ↔ closing <:+: cs := by
  constructor
  · rintro ⟨behind, hbehind, hcloses⟩
    rwa [List.append_cancel_left hbehind]
  · intro hcloses
    exact ⟨cs, rfl, hcloses⟩

/-- **Every text has parts**, and stripping expressions leaves the characters outside of them. -/
theorem exists_cut (cs : List Char) :
    ∃ parts, Cut cs parts ∧ plainText parts = stripExpressions cs := by
  fun_induction stripExpressions cs with
  | case1 rest after hafter _ ih =>
    obtain ⟨parts, hparts, hplain⟩ := ih
    obtain ⟨inside, hinside⟩ := afterClosing?_eq_some_iff.1 hafter
    exact ⟨.expression inside :: parts, .expression hinside hparts, hplain⟩
  | case2 rest hnone ih =>
    obtain ⟨parts, hparts, hplain⟩ := ih
    have houtside : ¬ StartsExpression (opening ++ rest) :=
      mt startsExpression_opening_iff.1 (afterClosing?_eq_none_iff.1 hnone)
    exact ⟨.plain '\x7b' :: parts, .plain houtside hparts, congrArg ('\x7b' :: ·) hplain⟩
  | case3 c rest hnot ih =>
    obtain ⟨parts, hparts, hplain⟩ := ih
    have houtside : ¬ StartsExpression (c :: rest) := by
      rintro ⟨behind, hbehind, -⟩
      obtain ⟨hc, hrest⟩ := List.cons.inj hbehind
      exact hnot behind hc hrest
    exact ⟨.plain c :: parts, .plain houtside hparts, congrArg (c :: ·) hplain⟩
  | case4 => exact ⟨[], .nil, rfl⟩

/-- **A text has its parts in one way only.** -/
theorem Cut.unique {cs : List Char} {parts parts' : List Part} (h : Cut cs parts)
    (h' : Cut cs parts') : parts = parts' := by
  induction h generalizing parts' with
  | nil =>
    cases h'
    rfl
  | @expression cs inside rest parts closes _ ih =>
    generalize htext : opening ++ cs = text at h'
    cases h' with
    | nil => exact absurd htext (by simp [opening])
    | expression closes' more' =>
      obtain rfl := List.append_cancel_left htext
      obtain ⟨rfl, rfl⟩ := closes.unique closes'
      rw [ih more']
    | plain outside _ =>
      rw [← htext, startsExpression_opening_iff] at outside
      exact absurd closes.isClosed outside
  | @plain c rest parts outside _ ih =>
    generalize htext : c :: rest = text at h'
    cases h' with
    | nil => exact nomatch htext
    | expression closes _ =>
      rw [htext, startsExpression_opening_iff] at outside
      exact absurd closes.isClosed outside
    | plain _ more' =>
      obtain ⟨rfl, rfl⟩ := List.cons.inj htext
      rw [ih more']

/-- The parts of a text make up the text. -/
theorem Cut.flatMap_source {cs : List Char} {parts : List Part} (h : Cut cs parts) :
    parts.flatMap Part.source = cs := by
  induction h with
  | nil => rfl
  | expression closes _ ih =>
    rw [List.flatMap_cons, ih, closes.1, Part.source, List.append_assoc, List.append_assoc,
      List.append_assoc]
  | plain _ _ ih =>
    rw [List.flatMap_cons, ih]
    rfl

theorem Cut.plainText_eq {cs : List Char} {parts : List Part} (h : Cut cs parts) :
    plainText parts = stripExpressions cs := by
  obtain ⟨parts', hparts', hplain⟩ := exists_cut cs
  rw [h.unique hparts', hplain]

/-- A character outside the expressions is a part. -/
theorem plainText_eq_append_cons_iff {parts : List Part} {front back : List Char} {c : Char} :
    plainText parts = front ++ c :: back
      ↔ ∃ before after, parts = before ++ .plain c :: after ∧ plainText before = front
        ∧ plainText after = back := by
  constructor
  · intro h
    obtain ⟨first, second, rfl, hfirst, hsecond⟩ := List.filterMap_eq_append_iff.1 h
    obtain ⟨expressions, part, after, rfl, hnone, hpart, hafter⟩ :=
      List.filterMap_eq_cons_iff.1 hsecond
    cases part with
    | expression inside => exact nomatch hpart
    | plain d =>
      obtain rfl : d = c := Option.some.inj hpart
      refine ⟨first ++ expressions, after, by rw [List.append_assoc], ?_, hafter⟩
      have hempty : plainText expressions = [] := List.filterMap_eq_nil_iff.2 hnone
      rw [plainText] at hempty
      rw [plainText, List.filterMap_append, hfirst, hempty, List.append_nil]
  · rintro ⟨before, after, rfl, rfl, rfl⟩
    rw [plainText, List.filterMap_append]
    rfl

/-! ## Names in braces -/

/-- The name of a placeholder: an ASCII letter or an underscore, and behind it word characters,
points and hyphens. -/
def IsPlaceholderName (name : List Char) : Prop :=
  ∃ first more, name = first :: more ∧ (first.isAlpha = true ∨ first = '_')
    ∧ ∀ c ∈ more, isWord c = true ∨ c = '.' ∨ c = '-'

/-- The name in single braces. -/
def braced (name : List Char) : List Char :=
  '\x7b' :: (name ++ ['\x7d'])

theorem startsName_iff {c : Char} : startsName c = true ↔ c.isAlpha = true ∨ c = '_' := by
  unfold Char.isAlpha Char.isUpper Char.isLower
  simp only [startsName, Bool.or_eq_true, Bool.and_eq_true, decide_eq_true_eq, beq_iff_eq]
  rfl

theorem isNamePart_iff {c : Char} : isNamePart c = true ↔ isWord c = true ∨ c = '.' ∨ c = '-' := by
  simp only [isNamePart, Bool.or_eq_true, beq_iff_eq, or_assoc]

theorem drop_length_takeWhile (p : Char → Bool) (cs : List Char) :
    cs.drop (cs.takeWhile p).length = cs.dropWhile p := by
  induction cs with
  | nil => rfl
  | cons c cs ih => by_cases hc : p c = true <;> simp [hc, ih]

/-- A name is read when it stands before a closing brace. No name holds one, so it is the first. -/
theorem nameBeforeBrace?_eq_some_iff {cs name : List Char} :
    nameBeforeBrace? cs = some name ↔ IsPlaceholderName name ∧ name ++ ['\x7d'] <+: cs := by
  simp only [IsPlaceholderName, ← startsName_iff, ← isNamePart_iff]
  cases cs with
  | nil =>
    refine iff_of_false (by simp [nameBeforeBrace?]) ?_
    rintro ⟨-, hprefix⟩
    simp at hprefix
  | cons first rest =>
    rw [nameBeforeBrace?]
    constructor
    · intro h
      split at h
      · next hname =>
        obtain rfl := Option.some.inj h
        rw [Bool.and_eq_true, beq_iff_eq, drop_length_takeWhile] at hname
        obtain ⟨hfirst, hbrace⟩ := hname
        obtain ⟨after, hafter⟩ := List.head?_eq_some_iff.1 hbrace
        refine ⟨⟨first, _, rfl, hfirst, fun c hc => List.mem_takeWhile_imp hc⟩, after, ?_⟩
        rw [List.cons_append, List.cons_append, List.append_assoc]
        refine congrArg (first :: ·) ?_
        rw [show ['\x7d'] ++ after = rest.dropWhile isNamePart from hafter.symm,
          List.takeWhile_append_dropWhile]
      · exact nomatch h
    · rintro ⟨⟨first', more, rfl, hfirst, hmore⟩, after, hafter⟩
      rw [List.cons_append, List.cons_append, List.append_assoc] at hafter
      obtain ⟨rfl, rfl⟩ := List.cons.inj hafter
      have hmoreOf : (more ++ (['\x7d'] ++ after)).takeWhile isNamePart = more := by
        rw [List.takeWhile_append_of_pos hmore]
        have hstop : (['\x7d'] ++ after).takeWhile isNamePart = [] := rfl
        rw [hstop, List.append_nil]
      rw [hmoreOf, List.drop_left, hfirst]
      rfl

theorem mem_bracedNames_cons_iff {c : Char} {cs name : List Char} :
    name ∈ bracedNames (c :: cs)
      ↔ (c = '\x7b' ∧ nameBeforeBrace? cs = some name) ∨ name ∈ bracedNames cs := by
  rw [bracedNames]
  by_cases hc : c = '\x7b'
  · subst hc
    cases hname : nameBeforeBrace? cs with
    | none => simp
    | some other => simp [eq_comm]
  · simp [hc]

/-- **The names in braces** are the names that stand somewhere in the text in braces. -/
theorem mem_bracedNames_iff {cs name : List Char} :
    name ∈ bracedNames cs ↔ IsPlaceholderName name ∧ braced name <:+: cs := by
  induction cs with
  | nil => simp [bracedNames, braced]
  | cons c cs ih =>
    have hfront : braced name <+: c :: cs ↔ c = '\x7b' ∧ name ++ ['\x7d'] <+: cs := by
      rw [braced, List.cons_prefix_cons, eq_comm]
    rw [mem_bracedNames_cons_iff, ih, nameBeforeBrace?_eq_some_iff, List.infix_cons_iff, hfront]
    tauto

/-! ## Placeholders -/

theorem placeholders_nil : placeholders [] = [] := by
  rw [placeholders, stripExpressions, bracedNames, List.map_nil]

/-- The placeholders of a text without an opening are the names in braces. -/
theorem placeholders_of_not_opening {cs : List Char} (h : ¬ opening <:+: cs) :
    placeholders cs = (bracedNames cs).map String.ofList := by
  rw [placeholders, stripExpressions_eq_self h]

/-- The token stands in the text in one piece and outside the expressions. -/
def StandsIn (token cs : List Char) : Prop :=
  ∃ before after, Cut cs (before ++ token.map .plain ++ after)

/-- The name in braces is spelled in the text outside the expressions: from brace to brace there is
nothing but the name and whole expressions. -/
def SpelledIn (name cs : List Char) : Prop :=
  ∃ before middle after,
    Cut cs (before ++ .plain '\x7b' :: (middle ++ .plain '\x7d' :: after)) ∧ plainText middle = name

theorem StandsIn.spelledIn {name cs : List Char} (h : StandsIn (braced name) cs) :
    SpelledIn name cs := by
  obtain ⟨before, after, hcut⟩ := h
  refine ⟨before, name.map .plain, after, ?_, ?_⟩
  · simpa [braced] using hcut
  · rw [plainText, List.filterMap_map]
    exact List.filterMap_some

theorem spelledIn_iff {name cs : List Char} :
    SpelledIn name cs ↔ braced name <:+: stripExpressions cs := by
  constructor
  · rintro ⟨before, middle, after, hcut, rfl⟩
    refine ⟨plainText before, plainText after, ?_⟩
    rw [← hcut.plainText_eq]
    simp [plainText, braced, Part.char?]
  · rintro ⟨front, back, htext⟩
    obtain ⟨parts, hcut, hplain⟩ := exists_cut cs
    rw [← hplain, braced, List.append_assoc, List.cons_append, List.append_assoc] at htext
    obtain ⟨before, rest, rfl, -, hrest⟩ := plainText_eq_append_cons_iff.1 htext.symm
    obtain ⟨middle, after, rfl, hmiddle, -⟩ := plainText_eq_append_cons_iff.1 hrest
    exact ⟨before, middle, after, hcut, hmiddle⟩

/-- **The placeholders of a text are the names that are spelled outside its expressions.** A token
that stands there in one piece is one of them. -/
theorem mem_placeholders_iff (cs : List Char) (name : String) :
    (name ∈ placeholders cs ↔ IsPlaceholderName name.toList ∧ SpelledIn name.toList cs)
    ∧ (IsPlaceholderName name.toList → StandsIn (braced name.toList) cs →
      name ∈ placeholders cs) := by
  have hspelled : name ∈ placeholders cs
      ↔ IsPlaceholderName name.toList ∧ SpelledIn name.toList cs := by
    rw [spelledIn_iff, ← mem_bracedNames_iff, placeholders, List.mem_map]
    constructor
    · rintro ⟨letters, hletters, rfl⟩
      rwa [String.toList_ofList]
    · intro hmem
      exact ⟨name.toList, hmem, String.ofList_toList⟩
  exact ⟨hspelled, fun hname hstands => hspelled.2 ⟨hname, hstands.spelledIn⟩⟩

/-- An expression in the middle of a token leaves the ends of the token to be read as one, so a
placeholder need not stand in the text in one piece. -/
theorem placeholders_not_standsIn :
    ¬ ∀ (cs : List Char) (name : String), name ∈ placeholders cs
      ↔ IsPlaceholderName name.toList ∧ StandsIn (braced name.toList) cs := by
  intro hall
  have hend : stripExpressions "\x7b\x7bx\x7d\x7db\x7d".toList = "b\x7d".toList := by
    have hafter : afterClosing? "x\x7d\x7db\x7d".toList = some "b\x7d".toList := rfl
    refine (stripExpressions_of_afterClosing hafter).trans ?_
    simp [stripExpressions]
  have hstrip : stripExpressions "\x7ba\x7b\x7bx\x7d\x7db\x7d".toList = "\x7bab\x7d".toList := by
    refine (stripExpressions_cons (by decide)).trans (congrArg ('\x7b' :: ·) ?_)
    exact (stripExpressions_cons (by decide)).trans (congrArg ('a' :: ·) hend)
  have hfound : "ab" ∈ placeholders "\x7ba\x7b\x7bx\x7d\x7db\x7d".toList := by
    rw [placeholders, hstrip]
    decide
  obtain ⟨-, before, after, hcut⟩ := (hall _ "ab").1 hfound
  have hstands : braced "ab".toList <:+: "\x7ba\x7b\x7bx\x7d\x7db\x7d".toList := by
    refine ⟨before.flatMap Part.source, after.flatMap Part.source, ?_⟩
    rw [← hcut.flatMap_source, List.flatMap_append, List.flatMap_append, List.flatMap_map]
    rfl
  exact absurd hstands (by decide)

/-! ## Texts behind one another

A character that is no brace and stands in no name keeps what is in front of it apart from what is
behind it, unless an expression that is open in front of it is closed behind it. -/

/-- An opening is left when the expressions of the text are stripped. -/
def LeavesOpen (cs : List Char) : Prop :=
  opening <:+: stripExpressions cs

theorem not_leavesOpen {cs : List Char} (h : ¬ opening <:+: cs) : ¬ LeavesOpen cs := by
  rwa [LeavesOpen, stripExpressions_eq_self h]

theorem afterClosing?_cons {c : Char} {cs : List Char} (h : ¬ closing <+: c :: cs) :
    afterClosing? (c :: cs) = afterClosing? cs := by
  rw [afterClosing?]
  rintro rest rfl rfl
  exact h ⟨rest, rfl⟩

theorem stripExpressions_of_none {rest : List Char} (h : afterClosing? rest = none) :
    stripExpressions ('\x7b' :: '\x7b' :: rest) = '\x7b' :: stripExpressions ('\x7b' :: rest) := by
  rw [stripExpressions]
  split
  · next hfound => simp [h] at hfound
  · rfl

/-- Braces that are not closed stay. -/
theorem exists_stripExpressions_of_none {rest : List Char} (h : afterClosing? rest = none) :
    ∃ more, stripExpressions ('\x7b' :: rest) = '\x7b' :: more := by
  by_cases hopens : opening <+: '\x7b' :: rest
  · obtain ⟨behind, hbehind⟩ := hopens
    obtain rfl : '\x7b' :: behind = rest := (List.cons.inj hbehind).2
    rw [afterClosing?_cons (by simp [closing])] at h
    exact ⟨_, stripExpressions_of_none h⟩
  · exact ⟨_, stripExpressions_cons hopens⟩

theorem leavesOpen_of_none {rest : List Char} (h : afterClosing? rest = none) :
    LeavesOpen ('\x7b' :: '\x7b' :: rest) := by
  obtain ⟨more, hmore⟩ := exists_stripExpressions_of_none h
  exact ⟨[], more, by rw [stripExpressions_of_none h, hmore]; rfl⟩

section Marks

variable {mark : Char} {cs rest : List Char}

/-- What is open is closed in front of the mark, or else behind it. -/
theorem afterClosing?_append_cons (hclose : mark ≠ '\x7d') (cs rest : List Char) :
    afterClosing? (cs ++ mark :: rest)
      = ((afterClosing? cs).map (· ++ mark :: rest)).or (afterClosing? rest) := by
  fun_induction afterClosing? cs with
  | case1 after => rfl
  | case2 c after hnot ih =>
    rw [List.cons_append, afterClosing?_cons, ih]
    rintro ⟨behind, hbehind⟩
    obtain ⟨rfl, htail⟩ := List.cons.inj hbehind
    -- the second brace of a closing is the next character, which is no mark
    cases after with
    | nil => exact hclose (List.cons.inj htail).1.symm
    | cons d after =>
      obtain ⟨rfl, -⟩ := List.cons.inj htail
      exact hnot after rfl rfl
  | case3 =>
    refine afterClosing?_cons ?_
    rintro ⟨behind, hbehind⟩
    exact hclose (List.cons.inj hbehind).1.symm

/-- **Expressions on the two sides of a mark** are stripped one by one. -/
theorem stripExpressions_append_cons (hopen : mark ≠ '\x7b') (hclose : mark ≠ '\x7d')
    (h : LeavesOpen cs → ¬ closing <:+: rest) :
    stripExpressions (cs ++ mark :: rest)
      = stripExpressions cs ++ mark :: stripExpressions rest := by
  unfold LeavesOpen at h
  fun_induction stripExpressions cs with
  | case1 front after hafter _ ih =>
    have hbehind : afterClosing? (front ++ mark :: rest) = some (after ++ mark :: rest) := by
      rw [afterClosing?_append_cons hclose, hafter]
      rfl
    rw [← ih h]
    exact stripExpressions_of_afterClosing hbehind
  | case2 front hnone ih =>
    have hrest : ¬ closing <:+: rest := by
      refine h ?_
      rw [← stripExpressions_of_none hnone]
      exact leavesOpen_of_none hnone
    have hbehind : afterClosing? (front ++ mark :: rest) = none := by
      rw [afterClosing?_append_cons hclose, hnone, afterClosing?_eq_none_iff.2 hrest]
      rfl
    exact (stripExpressions_of_none hbehind).trans (congrArg ('\x7b' :: ·) (ih fun _ => hrest))
  | case3 c front hnot ih =>
    have hplain : ¬ opening <+: c :: (front ++ mark :: rest) := by
      rintro ⟨behind, hbehind⟩
      obtain ⟨rfl, htail⟩ := List.cons.inj hbehind
      cases front with
      | nil => exact hopen (List.cons.inj htail).1.symm
      | cons d front =>
        obtain ⟨rfl, -⟩ := List.cons.inj htail
        exact hnot front rfl rfl
    rw [List.cons_append, stripExpressions_cons hplain, ih fun hleft => h (List.infix_cons hleft)]
    rfl
  | case4 =>
    refine stripExpressions_cons ?_
    rintro ⟨behind, hbehind⟩
    exact hopen (List.cons.inj hbehind).1.symm

theorem prefix_append_cons_iff {token : List Char} (h : mark ∉ token) :
    token <+: cs ++ mark :: rest ↔ token <+: cs := by
  refine ⟨fun hprefix => ?_, fun hprefix => hprefix.trans (List.prefix_append cs _)⟩
  rcases List.prefix_or_prefix_of_prefix hprefix (List.prefix_append cs (mark :: rest)) with
    hshort | ⟨more, rfl⟩
  · exact hshort
  · -- a longer token reaches the mark
    rw [List.prefix_append_right_inj] at hprefix
    cases more with
    | nil =>
      rw [List.append_nil]
    | cons c more =>
      obtain ⟨behind, hbehind⟩ := hprefix
      obtain ⟨rfl, -⟩ := List.cons.inj hbehind
      exact absurd (List.mem_append_right cs List.mem_cons_self) h

theorem isAscii_of_isAlpha {c : Char} (h : c.isAlpha = true) : c.toNat < 0x80 := by
  unfold Char.isAlpha Char.isUpper Char.isLower at h
  simp only [Bool.or_eq_true, Bool.and_eq_true, decide_eq_true_eq, ge_iff_le,
    UInt32.le_iff_toNat_le] at h
  have hc : c.toNat = c.val.toNat := rfl
  have hupper : 'Z'.val.toNat = 90 := rfl
  have hlower : 'z'.val.toNat = 122 := rfl
  omega

theorem IsPlaceholderName.isNamePart {name : List Char} (h : IsPlaceholderName name) :
    ∀ c ∈ name, isNamePart c = true := by
  obtain ⟨first, more, rfl, hfirst, hmore⟩ := h
  refine List.forall_mem_cons.2
    ⟨isNamePart_iff.2 (.inl ?_), fun c hc => isNamePart_iff.2 (hmore c hc)⟩
  rcases hfirst with hletter | rfl
  · exact isWord_of_isAlphanum first (by simp [Char.isAlphanum, hletter])
      (isAscii_of_isAlpha hletter)
  · decide

theorem nameBeforeBrace?_append_cons (hname : isNamePart mark = false) (hclose : mark ≠ '\x7d') :
    nameBeforeBrace? (cs ++ mark :: rest) = nameBeforeBrace? cs := by
  refine Option.ext fun name => ?_
  rw [nameBeforeBrace?_eq_some_iff, nameBeforeBrace?_eq_some_iff]
  refine and_congr_right fun hisName => prefix_append_cons_iff ?_
  rw [List.mem_append, List.mem_singleton, not_or]
  exact ⟨fun hmem => by simp [hisName.isNamePart mark hmem] at hname, hclose⟩

theorem bracedNames_append_cons (hopen : mark ≠ '\x7b') (hname : isNamePart mark = false)
    (hclose : mark ≠ '\x7d') :
    bracedNames (cs ++ mark :: rest) = bracedNames cs ++ bracedNames rest := by
  induction cs with
  | nil =>
    show bracedNames (mark :: rest) = bracedNames rest
    rw [bracedNames, if_neg (by simpa using hopen)]
  | cons c cs ih =>
    rw [List.cons_append, bracedNames, bracedNames, nameBeforeBrace?_append_cons hname hclose, ih]
    split
    · split <;> rfl
    · rfl

/-- **Placeholders on the two sides of a mark** are found one by one. -/
theorem placeholders_append_cons (hopen : mark ≠ '\x7b') (hname : isNamePart mark = false)
    (hclose : mark ≠ '\x7d') (h : LeavesOpen cs → ¬ closing <:+: rest) :
    placeholders (cs ++ mark :: rest) = placeholders cs ++ placeholders rest := by
  rw [placeholders, stripExpressions_append_cons hopen hclose h,
    bracedNames_append_cons hopen hname hclose, List.map_append]
  rfl

end Marks

section Fronts

variable {front : List Char}

theorem afterClosing?_append_of_not_mem (h : '\x7d' ∉ front) (rest : List Char) :
    afterClosing? (front ++ rest) = afterClosing? rest := by
  induction front with
  | nil => rfl
  | cons c front ih =>
    obtain ⟨hc, hfront⟩ := not_or.1 (mt List.mem_cons.2 h)
    rw [List.cons_append, afterClosing?_cons, ih hfront]
    rintro ⟨behind, hbehind⟩
    exact hc (List.cons.inj hbehind).1

theorem stripExpressions_append_of_not_mem (h : '\x7b' ∉ front) (rest : List Char) :
    stripExpressions (front ++ rest) = front ++ stripExpressions rest := by
  induction front with
  | nil => rfl
  | cons c front ih =>
    obtain ⟨hc, hfront⟩ := not_or.1 (mt List.mem_cons.2 h)
    rw [List.cons_append, stripExpressions_cons, ih hfront, List.cons_append]
    rintro ⟨behind, hbehind⟩
    exact hc (List.cons.inj hbehind).1

theorem bracedNames_append_of_not_mem (h : '\x7b' ∉ front) (rest : List Char) :
    bracedNames (front ++ rest) = bracedNames rest := by
  induction front with
  | nil => rfl
  | cons c front ih =>
    obtain ⟨hc, hfront⟩ := not_or.1 (mt List.mem_cons.2 h)
    rw [List.cons_append, bracedNames, if_neg (by simpa using Ne.symm hc), ih hfront]

theorem opening_infix_of_append {rest : List Char} (h : '\x7b' ∉ front)
    (hstands : opening <:+: front ++ rest) : opening <:+: rest := by
  induction front with
  | nil => exact hstands
  | cons c front ih =>
    obtain ⟨hc, hfront⟩ := not_or.1 (mt List.mem_cons.2 h)
    rcases List.infix_cons_iff.1 hstands with ⟨behind, hbehind⟩ | hstands
    · exact absurd (List.cons.inj hbehind).1 hc
    · exact ih hfront hstands

/-- Text without an opening brace holds no placeholder. -/
theorem placeholders_append_of_not_mem (h : '\x7b' ∉ front) (rest : List Char) :
    placeholders (front ++ rest) = placeholders rest := by
  rw [placeholders, stripExpressions_append_of_not_mem h, bracedNames_append_of_not_mem h]
  rfl

end Fronts

/-- A brace begins no placeholder in front of a character that begins no name. -/
theorem placeholders_brace_cons {c : Char} (hopen : c ≠ '\x7b') (hname : startsName c = false)
    (rest : List Char) : placeholders ('\x7b' :: c :: rest) = placeholders (c :: rest) := by
  have hplain : ¬ opening <+: '\x7b' :: c :: rest := by
    rintro ⟨behind, hbehind⟩
    exact hopen (List.cons.inj (List.cons.inj hbehind).2).1.symm
  have hplain' : ¬ opening <+: c :: rest := by
    rintro ⟨behind, hbehind⟩
    exact hopen (List.cons.inj hbehind).1.symm
  have hnone : nameBeforeBrace? (c :: stripExpressions rest) = none := by
    simp [nameBeforeBrace?, hname]
  rw [placeholders, placeholders, stripExpressions_cons hplain, stripExpressions_cons hplain',
    bracedNames, hnone]
  rfl

end FlowLint.Text
