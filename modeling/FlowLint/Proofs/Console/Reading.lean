import FlowLint.Console.Block
import FlowLint.Proofs.Outcome

/-!
# Texts that read as markup

Console markup is without meaning when it closes what is not open, asks for a colour that is none,
or holds an action that cannot be read. A text that was escaped has none of these faults, whatever
stands in it, and neither has a text without opening brackets, nor one between the tags of a style.

* **`Markup.exists_parts_escape`**: an escaped text has the tags of the text, and a backslash takes
  the meaning of each of them away.
* **`readable_escape`**, **`readable_plain`**, **`readable_styled`**: such texts can be read.
* **`exists_rows_iff`**, **`printBlocks_ends_iff`**: blocks are printed when all of their texts can
  be read.
-/

namespace FlowLint.Console

namespace Markup

/-! ## The tags of an escaped text -/

theorem finalSlashes_append (cs : List Char) (count : Nat) :
    finalSlashes (cs ++ List.replicate count '\\') = finalSlashes cs + count := by
  have hslashes : ∀ c ∈ List.replicate count '\\', (c == '\\') = true := by
    intro c hc
    rw [List.eq_of_mem_replicate hc]
    rfl
  rw [finalSlashes, List.reverse_append, List.reverse_replicate,
    List.takeWhile_append_of_pos hslashes, List.length_append, List.length_replicate, Nat.add_comm]
  rfl

/-- What stands behind a tag does not belong to it. -/
theorem body?_append {piece body after : List Char} (h : body? piece = some (body, after))
    (back : List Char) : body? (piece ++ back) = some (body, after ++ back) := by
  cases piece with
  | nil => exact nomatch h
  | cons c rest =>
    rw [body?] at h
    rw [List.cons_append, body?]
    split at h
    · next hbegins found =>
      cases h
      rw [hbegins, Text.splitFirst_append_of_some found]
    · exact nomatch h

/-- Backslashes make no tag of what is none. -/
theorem body?_append_slashes {piece : List Char} (h : body? piece = none) (count : Nat) :
    body? (piece ++ List.replicate count '\\') = none := by
  cases piece with
  | nil =>
    cases count with
    | zero => rfl
    | succ count => rfl
  | cons c rest =>
    rw [body?] at h
    rw [List.cons_append, body?]
    cases hbegins : beginsTag c with
    | false => rfl
    | true =>
      -- the bracket that closes a tag does not occur, and is no backslash
      cases hsplit : Text.splitFirst ']' rest with
      | mk body after =>
      rw [hbegins, hsplit] at h
      cases after with
      | some after => exact nomatch h
      | none =>
        have hfree : ']' ∉ rest ++ List.replicate count '\\' := by
          rw [List.mem_append, not_or]
          refine ⟨Text.not_mem_of_splitFirst hsplit, fun hmem => ?_⟩
          exact absurd (List.eq_of_mem_replicate hmem) (by decide)
        rw [Text.splitFirst_of_not_mem hfree]

theorem partsBehind_of_no_tag {piece : List Char} (h : body? piece = none) (pending : List Char)
    (more : List (List Char)) :
    partsBehind pending (piece :: more) = partsBehind (pending ++ '[' :: piece) more := by
  rw [partsBehind, h]

theorem partsBehind_of_tag {piece body after : List Char} (h : body? piece = some (body, after))
    (pending : List Char) (more : List (List Char)) :
    partsBehind pending (piece :: more)
      = (⟨pending.take (pending.length - finalSlashes pending), finalSlashes pending, body⟩
          :: (partsBehind after more).1, (partsBehind after more).2) := by
  rw [partsBehind, h]

/-- A tag as it is read after it was escaped. -/
def Part.doubled (part : Part) : Part :=
  { part with slashes := 2 * part.slashes + 1 }

/-- A tag with one more backslash than there are in front of it is read as an escaped one. -/
theorem partsBehind_of_escaped_tag {piece body after : List Char}
    (h : body? piece = some (body, after)) (pending : List Char) (more : List (List Char)) :
    partsBehind (pending ++ List.replicate (finalSlashes pending + 1) '\\') (piece :: more)
      = (Part.doubled ⟨pending.take (pending.length - finalSlashes pending), finalSlashes pending,
          body⟩ :: (partsBehind after more).1, (partsBehind after more).2) := by
  have hslashes :
      finalSlashes pending + (finalSlashes pending + 1) = 2 * finalSlashes pending + 1 := by
    omega
  have hlength : (pending ++ List.replicate (finalSlashes pending + 1) '\\').length
      - (2 * finalSlashes pending + 1) = pending.length - finalSlashes pending := by
    rw [List.length_append, List.length_replicate]
    omega
  rw [partsBehind_of_tag h, finalSlashes_append, hslashes, hlength,
    List.take_append_of_le_length (Nat.sub_le _ _)]
  rfl

/-- A tag with its backslashes doubled and one more is the tag behind as many backslashes and one
more than it had in front. -/
theorem escaped_eq (pending body : List Char) :
    Part.escaped ⟨pending.take (pending.length - finalSlashes pending), finalSlashes pending, body⟩
      = pending ++ List.replicate (finalSlashes pending + 1) '\\' ++ '[' :: body ++ [']'] := by
  have hslashes : List.replicate (2 * finalSlashes pending + 1) '\\'
      = List.replicate (finalSlashes pending) '\\'
        ++ List.replicate (finalSlashes pending + 1) '\\' := by
    rw [List.replicate_append_replicate, Nat.two_mul, Nat.add_assoc]
  rw [Part.escaped]
  dsimp only
  rw [hslashes, ← List.append_assoc, take_append_finalSlashes]

theorem not_mem_append_slashes {piece : List Char} (h : '[' ∉ piece) (count : Nat) :
    '[' ∉ piece ++ List.replicate count '\\' := by
  rw [List.mem_append, not_or]
  exact ⟨h, fun hmem => absurd (List.eq_of_mem_replicate hmem) (by decide)⟩

/-- The escaped text of what stands behind a text that no tag has taken yet: some backslashes, and
pieces in which the same tags are read. Backslashes may follow at the end. -/
theorem exists_escaped_pieces (count : Nat) (pending : List Char) {pieces : List (List Char)}
    (hpieces : ∀ piece ∈ pieces, '[' ∉ piece) :
    ∃ (slashes : Nat) (pieces' : List (List Char)), (∀ piece ∈ pieces', '[' ∉ piece)
      ∧ (partsBehind pending pieces).1.flatMap Part.escaped ++ (partsBehind pending pieces).2
          ++ List.replicate count '\\'
        = pending ++ List.replicate slashes '\\' ++ pieces'.flatMap ('[' :: ·)
      ∧ partsBehind (pending ++ List.replicate slashes '\\') pieces'
        = ((partsBehind pending pieces).1.map Part.doubled,
          (partsBehind pending pieces).2 ++ List.replicate count '\\') := by
  induction pieces generalizing pending with
  | nil => exact ⟨count, [], nofun, by simp [partsBehind], by simp [partsBehind]⟩
  | cons piece more ih =>
    obtain ⟨hpiece, hmore⟩ := List.forall_mem_cons.1 hpieces
    cases hbody : body? piece with
    | none =>
      -- the piece goes to the text that no tag has taken, with the backslashes behind it
      obtain ⟨slashes, pieces', hfree, htext, hparts⟩ := ih (pending ++ '[' :: piece) hmore
      rw [partsBehind_of_no_tag hbody, htext]
      refine ⟨0, (piece ++ List.replicate slashes '\\') :: pieces', ?_, ?_, ?_⟩
      · exact List.forall_mem_cons.2 ⟨not_mem_append_slashes hpiece slashes, hfree⟩
      · simp
      · rw [partsBehind_of_no_tag (body?_append_slashes hbody slashes), ← hparts]
        simp
    | some found =>
      -- the tag gets its backslashes, and the others come behind it
      obtain ⟨body, after⟩ := found
      obtain ⟨slashes, pieces', hfree, htext, hparts⟩ := ih after hmore
      rw [partsBehind_of_tag hbody]
      refine
        ⟨finalSlashes pending + 1, (piece ++ List.replicate slashes '\\') :: pieces', ?_, ?_, ?_⟩
      · exact List.forall_mem_cons.2 ⟨not_mem_append_slashes hpiece slashes, hfree⟩
      · rw [List.flatMap_cons, escaped_eq, List.append_assoc, List.append_assoc, ← List.append_assoc
          (List.flatMap _ _), htext, eq_append_of_body hbody]
        simp
      · rw [partsBehind_of_escaped_tag (body?_append hbody _), hparts]
        rfl

/-- **The tags of an escaped text** are those of the text, each behind an odd number of
backslashes. -/
theorem exists_parts_escape (cs : List Char) :
    ∃ rest, parts (escape cs) = ((parts cs).1.map Part.doubled, rest) := by
  obtain ⟨first, more, hsplit⟩ := List.exists_cons_of_ne_nil (Text.splitAll_ne_nil '[' cs)
  have hparts : parts cs = partsBehind first more := by
    rw [parts, hsplit]
  -- one backslash may be put behind the text
  have hescape : ∃ count, escape cs
      = (parts cs).1.flatMap Part.escaped ++ (parts cs).2 ++ List.replicate count '\\' := by
    by_cases hone : finalSlashes ((parts cs).1.flatMap Part.escaped ++ (parts cs).2) = 1
    · exact ⟨1, if_pos hone⟩
    · exact ⟨0, (if_neg hone).trans (List.append_nil _).symm⟩
  obtain ⟨count, hcount⟩ := hescape
  have hfree : ∀ piece ∈ first :: more, '[' ∉ piece := by
    intro piece hmem
    rw [← hsplit] at hmem
    exact Text.not_mem_of_splitAll hmem
  obtain ⟨hfirst, hmore⟩ := List.forall_mem_cons.1 hfree
  obtain ⟨slashes, pieces', hfree', htext, hread⟩ := exists_escaped_pieces count first hmore
  have hsplit' : Text.splitAll '[' (escape cs)
      = (first ++ List.replicate slashes '\\') :: pieces' := by
    rw [hcount, hparts, htext]
    exact Text.splitAll_flatMap (not_mem_append_slashes hfirst slashes) hfree'
  refine ⟨(partsBehind first more).2 ++ List.replicate count '\\', ?_⟩
  rw [parts, hsplit', hparts]
  exact hread

/-! ## Reading -/

/-- Tags behind odd numbers of backslashes are shown as they are. -/
theorem exists_partsShown_of_odd (rest : List Char) (position : Nat) (openTags : List OpenTag)
    {parts : List Part} (h : ∀ part ∈ parts, part.slashes % 2 = 1) :
    ∃ runs, partsShown rest position openTags parts = .ok runs := by
  induction parts generalizing position with
  | nil => exact ⟨_, rfl⟩
  | cons part more ih =>
    obtain ⟨hodd, hmore⟩ := List.forall_mem_cons.1 h
    obtain ⟨runs, hruns⟩ := ih (position + part.source.length) hmore
    rw [partsShown, if_pos hodd, hruns]
    exact ⟨_, rfl⟩

/-- A text is read when its tags are. -/
theorem exists_runs_of_partsShown {cs rest : List Char} {ps : List Part}
    (hparts : parts cs = (ps, rest))
    (h : ∃ runs, partsShown rest 0 [] ps = .ok runs) : ∃ shown, runs cs = .ok shown := by
  obtain ⟨shown, hshown⟩ := h
  rw [runs, hparts]
  dsimp only
  rw [hshown]
  exact ⟨_, rfl⟩

theorem parts_of_no_bracket {cs : List Char} (h : '[' ∉ cs) : parts cs = ([], cs) := by
  rw [parts, Text.splitAll_of_not_mem h]
  rfl

/-- A text between the tags of a style, and another one behind them. -/
theorem parts_styled {c : Char} {style text back : List Char} (hc : beginsTag c = true)
    (hstyle : ']' ∉ style) (hbrackets : '[' ∉ c :: style) (htext : '[' ∉ text)
    (hback : '[' ∉ back) :
    parts ('[' :: c :: style ++ ']' :: text ++ '[' :: '/' :: ']' :: back)
      = ([⟨[], 0, c :: style⟩,
          ⟨text.take (text.length - finalSlashes text), finalSlashes text, ['/']⟩], back) := by
  have hopening : body? (c :: style ++ ']' :: text) = some (c :: style, text) := by
    rw [List.cons_append, body?, hc, Text.splitFirst_append hstyle]
  have hclosing : body? ('/' :: ']' :: back) = some (['/'], back) := rfl
  have hsplit : Text.splitAll '[' ('[' :: c :: style ++ ']' :: text ++ '[' :: '/' :: ']' :: back)
      = [[], c :: style ++ ']' :: text, '/' :: ']' :: back] := by
    have hfree : '[' ∉ c :: style ++ ']' :: text := by
      simp only [List.mem_append, List.mem_cons, not_or] at hbrackets ⊢
      exact ⟨hbrackets, by decide, htext⟩
    have hfree' : '[' ∉ '/' :: ']' :: back := by
      simp only [List.mem_cons, not_or]
      exact ⟨by decide, by decide, hback⟩
    have hwhole : '[' :: c :: style ++ ']' :: text ++ '[' :: '/' :: ']' :: back
        = [] ++ [c :: style ++ ']' :: text, '/' :: ']' :: back].flatMap ('[' :: ·) := by simp
    rw [hwhole]
    refine Text.splitAll_flatMap List.not_mem_nil ?_
    exact List.forall_mem_cons.2 ⟨hfree, List.forall_mem_cons.2 ⟨hfree', nofun⟩⟩
  rw [parts, hsplit]
  dsimp only
  rw [partsBehind_of_tag hopening, partsBehind_of_tag hclosing]
  rfl

/-- A style whose tag can be opened and closed. -/
def isStyle : List Char → Bool
  | [] => false
  | c :: style =>
    beginsTag c && !style.contains ']' && !(c :: style).contains '['
      && match afterTag 0 [] (c :: style) with
        | .ok [tag] => (checkClosed tag).isOk
        | _ => false

/-- A text between the tags of a style is read. A backslash at its end leaves the style open. -/
theorem exists_partsShown_styled {style : List Char} (hstyle : isStyle style = true)
    (text back : List Char) :
    ∃ runs, partsShown back 0 [] [⟨[], 0, style⟩,
      ⟨text.take (text.length - finalSlashes text), finalSlashes text, ['/']⟩] = .ok runs := by
  obtain ⟨tag, hopened, hclosed⟩ :
      ∃ tag, afterTag 0 [] style = .ok [tag] ∧ checkClosed tag = .ok () := by
    cases style with
    | nil => exact absurd hstyle Bool.false_ne_true
    | cons c style =>
      rw [isStyle, Bool.and_eq_true] at hstyle
      obtain ⟨-, htag⟩ := hstyle
      split at htag
      · next tag hopened =>
        refine ⟨tag, hopened, ?_⟩
        cases hclosed : checkClosed tag with
        | ok => rfl
        | error fault =>
          rw [hclosed] at htag
          exact absurd htag Bool.false_ne_true
      · exact absurd htag Bool.false_ne_true
  have hlast : ∀ position, afterTag position [tag] ['/'] = .ok [] := by
    intro position
    show (do checkClosed tag; return []) = _
    rw [hclosed]
    rfl
  by_cases hodd : finalSlashes text % 2 = 1
  · simp [partsShown, hopened, hodd, bind, Except.bind, pure, Except.pure]
  · simp [partsShown, hopened, hodd, hlast, bind, Except.bind, pure, Except.pure]

end Markup

/-! ## Readable texts -/

/-- A text that has a meaning as markup. -/
def Readable (markup : String) : Prop :=
  ∃ runs, textRuns markup = .ok runs

/-- **An escaped text can be read**, whatever it holds. -/
theorem readable_escape (cs : List Char) : Readable (String.ofList (Markup.escape cs)) := by
  obtain ⟨rest, hparts⟩ := Markup.exists_parts_escape cs
  rw [Readable, textRuns, String.toList_ofList]
  refine Markup.exists_runs_of_partsShown hparts (Markup.exists_partsShown_of_odd rest 0 [] ?_)
  intro part hmem
  obtain ⟨original, -, rfl⟩ := List.mem_map.1 hmem
  show (2 * original.slashes + 1) % 2 = 1
  omega

/-- A text without opening brackets can be read. -/
theorem readable_plain {text : String} (h : '[' ∉ text.toList) : Readable text :=
  Markup.exists_runs_of_partsShown (Markup.parts_of_no_bracket h) ⟨_, rfl⟩

/-- A text between the tags of a style can be read, and with another text behind them too. -/
theorem readable_styled {style text back : String} (hstyle : Markup.isStyle style.toList = true)
    (htext : '[' ∉ text.toList) (hback : '[' ∉ back.toList) :
    Readable ("[" ++ style ++ "]" ++ text ++ "[/]" ++ back) := by
  have hshown := Markup.exists_partsShown_styled hstyle text.toList back.toList
  rw [Readable, textRuns]
  cases hcs : style.toList with
  | nil =>
    rw [hcs] at hstyle
    exact nomatch hstyle
  | cons c rest =>
    rw [hcs] at hstyle hshown
    have hwhole : ("[" ++ style ++ "]" ++ text ++ "[/]" ++ back).toList
        = '[' :: c :: rest ++ ']' :: text.toList ++ '[' :: '/' :: ']' :: back.toList := by
      simp [String.toList_append, hcs]
    simp only [Markup.isStyle, Bool.and_eq_true, Bool.not_eq_true', List.contains_eq_mem,
      decide_eq_false_iff_not] at hstyle
    obtain ⟨⟨⟨hbegins, hclosing⟩, hopening⟩, -⟩ := hstyle
    rw [hwhole]
    exact Markup.exists_runs_of_partsShown
      (Markup.parts_styled hbegins hclosing hopening htext hback) hshown

/-! ## Blocks -/

/-- The texts of a block that are read as markup. -/
def Block.texts : Block → List String
  | .line text | .panel text => [text]
  | .table title _ cells => title.toList ++ cells.flatten

theorem exists_plainText_iff {markup : String} :
    (∃ text, plainText markup = .ok text) ↔ Readable markup := by
  unfold plainText Readable
  cases textRuns markup <;> simp [bind, Except.bind, pure, Except.pure]

/-- A table has lines when its cells can be read, and its title. -/
theorem exists_lines_table_iff {title : Option String} {header : List String}
    {cells : List (List String)} :
    (∃ lines, (Block.table title header cells).lines = .ok lines)
      ↔ (∀ row ∈ cells, ∀ text ∈ row, Readable text) ∧ ∀ text ∈ title, Readable text := by
  have hcells : (∃ rows, cells.mapM (·.mapM textRuns) = .ok rows)
      ↔ ∀ row ∈ cells, ∀ text ∈ row, Readable text := by
    rw [Outcome.mapM_eq_walk, Outcome.exists_walk_eq_ok_iff]
    refine forall₂_congr fun row _ => ?_
    rw [Outcome.mapM_eq_walk, Outcome.exists_walk_eq_ok_iff]
    rfl
  rw [← hcells, Block.lines]
  cases cells.mapM (·.mapM textRuns) with
  | error fault => simp [bind, Except.bind]
  | ok rows =>
    cases title with
    | none => simp [bind, Except.bind, pure, Except.pure]
    | some title =>
      have htitle : (∃ text, plainText title = .ok text) ↔ Readable title := exists_plainText_iff
      simp only [Option.mem_def, Option.some.injEq, forall_eq', ← htitle]
      cases plainText title <;> simp [bind, Except.bind, pure, Except.pure]

/-- **A block can be shown when all of its texts can be read.** -/
theorem exists_rows_iff {block : Block} :
    (∃ rows, block.rows = .ok rows) ↔ ∀ text ∈ block.texts, Readable text := by
  have hlines : (∃ rows, block.rows = .ok rows) ↔ ∃ lines, block.lines = .ok lines := by
    unfold Block.rows
    cases block.lines <;> simp [bind, Except.bind, pure, Except.pure]
  rw [hlines]
  cases block with
  | line text =>
    rw [Block.texts, List.forall_mem_singleton, ← exists_plainText_iff, Block.lines]
    cases plainText text <;> simp [bind, Except.bind, pure, Except.pure]
  | panel text =>
    rw [Block.texts, List.forall_mem_singleton, Readable, Block.lines]
    cases textRuns text <;> simp [bind, Except.bind, pure, Except.pure]
  | table title header cells =>
    rw [exists_lines_table_iff, Block.texts, List.forall_mem_append, and_comm]
    simp only [Option.mem_toList, Option.mem_def, List.mem_flatten, forall_exists_index, and_imp]
    exact and_congr_right fun _ => ⟨fun h text row hrow htext => h row hrow text htext,
      fun h row hrow text htext => h text row hrow htext⟩

theorem printBlocks_ends_iff {blocks : List Block} :
    (printBlocks blocks).2 = none ↔ ∀ block ∈ blocks, ∀ text ∈ block.texts, Readable text := by
  induction blocks with
  | nil => simp [printBlocks]
  | cons block more ih =>
    rw [List.forall_mem_cons, ← exists_rows_iff, ← ih, printBlocks]
    cases block.rows <;> simp

end FlowLint.Console
