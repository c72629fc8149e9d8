import FlowLint.Text.Grapheme
import FlowLint.Text.Split

/-!
# Runs of a text

A text for the console is a list of runs, each in one style. Lines are broken as if the text were
one run, but a run is printed by itself: a joiner at its end draws nothing in, and the widths of the
runs add up.
-/

namespace FlowLint.Console

/-- For each character of runs, whether it starts a run. -/
def runStarts (runs : List (List Char)) : List Bool :=
  runs.flatMap (·.mapIdx fun i _ => i == 0)

/-- What belongs to the characters of each line, of what belongs to those of a text; a number of
characters between two lines belong to none. -/
def alongLines (gap : Nat) : List (List Char) → List Bool → List (List Bool)
  | [], _ => []
  | line :: more, marks =>
    marks.take line.length :: alongLines gap more (marks.drop (line.length + gap))

/-- The text cut before each character that starts a run. -/
def cutAtStarts : List Char → List Bool → List (List Char)
  | c :: rest, starts :: more =>
    let runs := Text.withFront [c] (cutAtStarts rest more)
    if starts then [] :: runs else runs
  | rest, _ => [rest]

/-- Runs cut at a width, the last of them within. -/
def croppedRuns (width : Nat) : List (List Char) → List Char
  | [] => []
  | run :: more =>
    let taken := Text.textWidth run
    if taken < width then run ++ croppedRuns (width - taken) more
    else Text.fitted width (Text.graphemes run)

def cropped (width : Nat) (runs : List (List Char)) : List Char :=
  let total := runs.foldl (fun used run => used + Text.textWidth run) 0
  if total ≤ width then runs.flatten else croppedRuns width runs

end FlowLint.Console
