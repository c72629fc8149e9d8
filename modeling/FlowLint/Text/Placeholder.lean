import FlowLint.Text.Word

/-!
# Placeholders

A request text can hold placeholders, names in single braces, and expressions, anything in double
braces. Expressions are cut out first; what is left is searched for placeholders.

Main statement: an expression is cut from its opening to the nearest closing after it
(`stripExpressions_of_afterClosing`).
-/

namespace FlowLint.Text

/-- The text after the first pair of closing braces. -/
def afterClosing? : List Char → Option (List Char)
  | '\x7d' :: '\x7d' :: rest => some rest
  | _ :: rest => afterClosing? rest
  | [] => none

theorem length_of_afterClosing? {cs rest : List Char} (h : afterClosing? cs = some rest) :
    rest.length < cs.length := by
  fun_induction afterClosing? cs with
  | case1 rest' =>
    obtain rfl : rest' = rest := by simpa using h
    simp only [List.length_cons]
    omega
  | case2 c rest' _ ih =>
    have := ih h
    simp only [List.length_cons]
    omega
  | case3 => simp at h

/-- The text without its expressions. An opening pair of braces that is never closed stays. -/
def stripExpressions (cs : List Char) : List Char :=
  match cs with
  | '\x7b' :: '\x7b' :: rest =>
    match h : afterClosing? rest with
    | some after =>
      have := length_of_afterClosing? h
      stripExpressions after
    | none => '\x7b' :: stripExpressions ('\x7b' :: rest)
  | c :: rest => c :: stripExpressions rest
  | [] => []
termination_by cs.length

def startsName (c : Char) : Bool :=
  ('A' ≤ c && c ≤ 'Z') || ('a' ≤ c && c ≤ 'z') || c == '_'

def isNamePart (c : Char) : Bool :=
  isWord c || c == '.' || c == '-'

/-- The placeholder name before a closing brace, when the text starts with them. -/
def nameBeforeBrace? (cs : List Char) : Option (List Char) :=
  match cs with
  | c :: rest =>
    let more := rest.takeWhile isNamePart
    if startsName c && (rest.drop more.length).head? == some '\x7d' then some (c :: more) else none
  | [] => none

/-- The names in single braces, in the order of the text. No name holds a brace, so no two of them
overlap. -/
def bracedNames : List Char → List (List Char)
  | [] => []
  | c :: rest =>
    if c == '\x7b' then
      match nameBeforeBrace? rest with
      | some name => name :: bracedNames rest
      | none => bracedNames rest
    else bracedNames rest

def placeholders (cs : List Char) : List String :=
  (bracedNames (stripExpressions cs)).map String.ofList

theorem stripExpressions_of_afterClosing {rest after : List Char}
    (h : afterClosing? rest = some after) :
    stripExpressions ('\x7b' :: '\x7b' :: rest) = stripExpressions after := by
  rw [stripExpressions]
  split
  · next found hfound =>
    obtain rfl : found = after := by simpa [hfound] using h
    rfl
  · next hnone => simp [hnone] at h

end FlowLint.Text
