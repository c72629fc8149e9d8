import FlowLint.Console.Lines
import FlowLint.Console.Markup

/-!
# Blocks of console output

What is printed at one time: a line, a panel around a text, or a table. A block is made of markup
and is shown as rows of cells. The console is as wide as it has to be: a panel is as wide as its
text and a column as its widest cell, and only the title of a table may be too long for it.
-/

namespace FlowLint.Console

/-- What is printed at one time, its texts being markup but for the header of a table. -/
inductive Block where
  | line (text : String)
  | panel (text : String)
  | table (title : Option String) (header : List String) (cells : List (List String))
deriving DecidableEq, Repr

def textRuns (markup : String) : Except MarkupFault (List (List Char)) :=
  Markup.runs markup.toList

def plainText (markup : String) : Except MarkupFault (List Char) :=
  return (← textRuns markup).flatten

/-! ## Tables -/

/-- The greater of the numbers at each place; a place of one list only keeps its number. -/
def maxima : List Nat → List Nat → List Nat
  | a :: as, b :: bs => max a b :: maxima as bs
  | as, [] => as
  | [], bs => bs

/-- The widths of the columns of a table, each cell being a list of runs. -/
def columnWidths : List (List (List (List Char))) → List Nat
  | [] => []
  | row :: more => maxima (row.map (naturalWidth ·.flatten)) (columnWidths more)

/-- The width of a table: a space on either side of each cell, and a rule on either side of each
column. -/
def tableWidth (widths : List Nat) : Nat :=
  widths.foldl (fun used width => used + width + 3) 1

/-- The lines in which a row of a table is shown. A cell without as many lines as the row is empty
in the others. -/
def rowLines (widths : List Nat) (row : List (List (List Char))) : List (List (List Char)) :=
  let cells := List.zipWith (fun width cell => textLines width .ellipsis cell) widths row
  let height := (cells.map List.length).foldl max 0
  (List.range height).map fun i => cells.map fun lines => lines.getD i []

/-! ## Blocks -/

namespace Block

/-- The lines in which a block is shown, each as a list of cells. -/
def lines : Block → Except MarkupFault (List (List (List Char)))
  | .line text => return (Text.splitAll '\n' (← plainText text)).map ([·])
  | .panel text => do
    let runs ← textRuns text
    return (textLines (naturalWidth runs.flatten) .fold runs).map ([·])
  | .table title header cells => do
    let rows ← cells.mapM (·.mapM textRuns)
    let rows := if header = [] then rows else header.map (fun text => [text.toList]) :: rows
    let widths := columnWidths rows
    let above ←
      match title with
      | some title => pure (textLines (tableWidth widths) .fold [← plainText title])
      | none => pure []
    return above.map ([·]) ++ rows.flatMap (rowLines widths)

/-- The rows of a block: its lines that hold some text, without the blanks at the ends of cells. -/
def rows (block : Block) : Except MarkupFault (List (List String)) := do
  let trimmed := (← block.lines).map (·.map Text.trim)
  return (trimmed.filter (·.any (· ≠ []))).map (·.map String.ofList)

end Block

/-- The rows of blocks that are printed one after the other. A block without meaning is not
printed, and none behind it. -/
def printBlocks : List Block → List (List String) × Option MarkupFault
  | [] => ([], none)
  | block :: more =>
    match block.rows with
    | .ok rows =>
      let (further, fault) := printBlocks more
      (rows ++ further, fault)
    | .error fault => ([], some fault)

end FlowLint.Console
