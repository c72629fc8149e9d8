import FlowLint.Console.Style
import FlowLint.Text.Symbol
import FlowLint.Text.Word

/-!
# Console markup

Texts for the console carry tags in square brackets that open and close styles, and symbols by
name. A tag begins with a small letter, a number sign, a slash or an at sign; a backslash in front
takes its meaning away, and two backslashes there stand for one.
-/

namespace FlowLint.Console

/-- Why a text has no meaning as markup: a closing tag without its opening tag, whose position is
that of its bracket in the text, a colour with a component that is no number, or an action that
cannot be read. -/
inductive MarkupFault where
  | notOpen (body : List Char) (position : Nat)
  | nothingOpen (position : Nat)
  | badColor (fault : Numeral.Fault)
  | badAction (parameters : List Char)
deriving DecidableEq, Repr

/-- The wording of a fault. What is wrong with an action is not worded. -/
def MarkupFault.message : MarkupFault → String
  | .notOpen body position =>
    "closing tag '[" ++ String.ofList body ++ "]' at position " ++ numberText position
      ++ " doesn't match any open tag"
  | .nothingOpen position =>
    "closing tag '[/]' at position " ++ numberText position ++ " has nothing to close"
  | .badColor .unreadable => "invalid literal for int() with base 10: ''"
  | .badColor (.tooManyDigits count) => tooManyDigitsMessage count
  | .badAction parameters => "error parsing '" ++ String.ofList parameters ++ "'"

namespace Markup

/-! ## Parts -/

/-- A tag with what stands in front of it: a text, and the backslashes directly before the tag. The
body of the tag is what stands between its brackets. -/
structure Part where
  before : List Char
  slashes : Nat
  body : List Char

/-- A character with which the body of a tag may begin. -/
def beginsTag (c : Char) : Bool :=
  ('a' ≤ c && c ≤ 'z') || c == '#' || c == '/' || c == '@'

/-- The body of a tag and what follows the tag, given the text behind an opening bracket up to the
next one. -/
def body? : List Char → Option (List Char × List Char)
  | c :: rest =>
    match beginsTag c, Text.splitFirst ']' rest with
    | true, (body, some after) => some (c :: body, after)
    | _, _ => none
  | [] => none

/-- The number of backslashes at the end of a text. -/
def finalSlashes (cs : List Char) : Nat :=
  (cs.reverse.takeWhile (· == '\\')).length

/-- The tags of a text and what follows the last of them, given the text that no tag has taken yet
and its further pieces, each of which had an opening bracket in front. -/
def partsBehind (pending : List Char) : List (List Char) → List Part × List Char
  | [] => ([], pending)
  | piece :: more =>
    match body? piece with
    | some (body, after) =>
      let slashes := finalSlashes pending
      let (parts, rest) := partsBehind after more
      (⟨pending.take (pending.length - slashes), slashes, body⟩ :: parts, rest)
    | none => partsBehind (pending ++ '[' :: piece) more

/-- The tags of a text, each with what stands in front of it, and what follows the last of them. -/
def parts (cs : List Char) : List Part × List Char :=
  match Text.splitAll '[' cs with
  | first :: more => partsBehind first more
  | [] => ([], [])

/-! ## Escaping -/

/-- A tag as it is written, with what stands in front of it. -/
def Part.source (part : Part) : List Char :=
  part.before ++ List.replicate part.slashes '\\' ++ '[' :: part.body ++ [']']

/-- A tag without its meaning, with what stands in front of it: the backslashes before the tag are
doubled, and one more is put there. -/
def Part.escaped (part : Part) : List Char :=
  part.before ++ List.replicate (2 * part.slashes + 1) '\\' ++ '[' :: part.body ++ [']']

/-- The markup that shows a text: tags lose their meaning, and a single backslash at the end is
doubled, so that it takes no meaning from what follows. -/
def escape (cs : List Char) : List Char :=
  let (parts, rest) := parts cs
  let escaped := parts.flatMap Part.escaped ++ rest
  if finalSlashes escaped = 1 then escaped ++ ['\\'] else escaped

/-! ## Meaning -/

/-- The text without backslashes directly before opening brackets. -/
def bareBrackets : List Char → List Char
  | '\\' :: '[' :: rest => '[' :: bareBrackets rest
  | c :: rest => c :: bareBrackets rest
  | [] => []

def shown (cs : List Char) : List Char :=
  Text.withSymbols (bareBrackets cs)

/-- A tag that has been opened: the canonical name of its style, and its parameters, which follow
an equals sign. -/
structure OpenTag where
  name : List Char
  parameters : Option (List Char)

def styleName (name : List Char) : Except MarkupFault (List Char) :=
  (canonicalStyle name).mapError .badColor

/-- The tag that is opened. Its parameters are words of its style as well. -/
def opened (name : List Char) (parameters : Option (List Char)) : Except MarkupFault OpenTag := do
  let style ← styleName name
  let _ ← styleName (style ++ ' ' :: parameters.getD [])
  return ⟨style, parameters⟩

/-- A text reads as an action: a name, perhaps with arguments in round brackets. -/
def isAction (cs : List Char) : Bool :=
  let arguments := cs.dropWhile fun c => Text.isWord c || c == '.'
  arguments.isEmpty || (arguments.head? == some '(' && arguments.getLast? == some ')'
    && !arguments.contains '\n')

/-- A tag can be closed. The parameters of a tag whose name begins with an at sign are an action. -/
def checkClosed (tag : OpenTag) : Except MarkupFault Unit :=
  match tag.name, tag.parameters with
  | '@' :: _, some parameters =>
    if parameters = [] ∨ isAction (Text.trim parameters) then .ok ()
    else .error (.badAction parameters)
  | _, _ => .ok ()

/-- The open tags after a tag at a position, the one opened last in front. A closing tag without a
name closes the last one, and one with a name the last one of that name. -/
def afterTag (position : Nat) (openTags : List OpenTag) (body : List Char) :
    Except MarkupFault (List OpenTag) := do
  match Text.splitFirst '=' body with
  | ('/' :: closing, _) =>
    let name := Text.trim closing
    if name = [] then
      match openTags with
      | tag :: outer =>
        checkClosed tag
        return outer
      | [] => throw (.nothingOpen position)
    else
      let style ← styleName name
      match openTags.find? (·.name = style) with
      | some tag =>
        checkClosed tag
        return openTags.eraseP (·.name = style)
      | none => throw (.notOpen body position)
  | (name, parameters) => return (← opened name parameters) :: openTags

/-- The runs that are shown for tags with what stands in front of them, and for the text behind the
last of them, while tags are open. A tag ends a run. The first part begins at the position. -/
def partsShown (rest : List Char) (position : Nat) (openTags : List OpenTag) :
    List Part → Except MarkupFault (List (List Char))
  | [] => .ok [shown rest]
  | part :: more => do
    let front := shown part.before ++ List.replicate (part.slashes / 2) '\\'
    let behind := position + part.source.length
    if part.slashes % 2 = 1 then
      let tag := shown ('[' :: part.body ++ [']'])
      return Text.withFront (front ++ tag) (← partsShown rest behind openTags more)
    else
      let bracket := position + part.before.length + part.slashes
      return front :: (← partsShown rest behind (← afterTag bracket openTags part.body) more)

/-- A control character that the console leaves out: the bell, the backspace, the vertical tab, the
form feed or the carriage return. -/
def isLeftOut (c : Char) : Bool :=
  [0x07, 0x08, 0x0B, 0x0C, 0x0D].contains c.toNat

def runs (cs : List Char) : Except MarkupFault (List (List Char)) := do
  let (parts, rest) := parts cs
  return (← partsShown rest 0 [] parts).map (·.filter (!isLeftOut ·))

/-! ## What is taken apart -/

theorem takeWhile_slash (cs : List Char) :
    cs.takeWhile (· == '\\') = List.replicate (cs.takeWhile (· == '\\')).length '\\' := by
  refine List.eq_replicate_iff.2 ⟨rfl, fun c hc => ?_⟩
  simpa using List.all_eq_true.1 List.all_takeWhile c hc

theorem take_append_finalSlashes (cs : List Char) :
    cs.take (cs.length - finalSlashes cs) ++ List.replicate (finalSlashes cs) '\\' = cs := by
  have whole := congrArg List.reverse
    (List.takeWhile_append_dropWhile (p := (· == '\\')) (l := cs.reverse))
  rw [List.reverse_append, List.reverse_reverse, takeWhile_slash, List.reverse_replicate] at whole
  have size := congrArg List.length whole
  simp only [List.length_append, List.length_reverse, List.length_replicate] at size
  have front :=
    congrArg (List.take (cs.reverse.dropWhile (· == '\\')).reverse.length) whole
  rw [List.take_left, List.length_reverse] at front
  rw [finalSlashes, ← Nat.eq_sub_of_add_eq size, ← front]
  exact whole

theorem eq_append_of_body {piece body after : List Char} (h : body? piece = some (body, after)) :
    piece = body ++ ']' :: after := by
  unfold body? at h
  split at h
  · split at h
    · rename_i found
      obtain ⟨rfl, rfl⟩ := h
      rw [List.cons_append, ← Text.eq_append_of_splitFirst found]
    · simp at h
  · simp at h

end Markup

end FlowLint.Console
