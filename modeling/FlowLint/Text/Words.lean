import FlowLint.Text.Blank

/-!
# Words

A text falls into words, each with the blanks behind it; the blanks at the start of the text go
with the first word.
-/

namespace FlowLint.Text

/-- The blanks at the start of a text, and its words with the blanks behind them. -/
def blanksAndWords : List Char → List Char × List (List Char)
  | [] => ([], [])
  | c :: rest =>
    let (blanks, words) := blanksAndWords rest
    if isBlank c then (c :: blanks, words)
    else
      match blanks, words with
      | [], word :: more => ([], (c :: word) :: more)
      | _, _ => ([], (c :: blanks) :: words)

/-- The words of a text with the blanks behind them; a text of blanks only has none. -/
def blankedWords (cs : List Char) : List (List Char) :=
  match blanksAndWords cs with
  | (blanks, word :: more) => (blanks ++ word) :: more
  | (_, []) => []

def words (cs : List Char) : List (List Char) :=
  (blankedWords cs).map trim

end FlowLint.Text
