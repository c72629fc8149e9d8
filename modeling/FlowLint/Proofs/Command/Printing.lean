import FlowLint.Command.Outcome
import FlowLint.Proofs.Console.Reading

/-!
# What a command prints

A command that prints blocks ends with exit code one at a block that is without meaning as markup,
and loses the code that it would have ended with. Severities, codes and counts are markup of its own
that can be read, and the names and messages of findings are escaped. Only the path of a file is
printed as the markup that it is.

* **`printing_exitCode_eq_zero_iff`**: the exit code zero is kept when all texts can be read.
* **`resultBlocks_readable_iff`**: the blocks of a checked file can be printed when its path can be
  shown, which holds of every path without opening brackets (`showsPath_plain`).
-/

namespace FlowLint.Command

open Console

/-! ## Printing -/

theorem printing_exitCode_eq_zero_iff {code : Nat} {blocks : List Block} :
    (printing code blocks).exitCode = 0
      ↔ code = 0 ∧ ∀ block ∈ blocks, ∀ text ∈ block.texts, Readable text := by
  rw [← printBlocks_ends_iff]
  unfold printing
  cases printBlocks blocks with
  | mk rows fault => cases fault <;> simp

theorem printing_exitCode_le {code : Nat} (hcode : code ≤ 1) (blocks : List Block) :
    (printing code blocks).exitCode ≤ 1 := by
  unfold printing
  split
  · exact hcode
  · exact Nat.le_refl 1

theorem printing_exitCode_one (blocks : List Block) : (printing 1 blocks).exitCode = 1 := by
  unfold printing
  split <;> rfl

/-! ## What is printed for a file -/

theorem readable_escaped (text : String) : Readable (escaped text) :=
  readable_escape text.toList

theorem isStyle_of_mem {style : String}
    (h : style ∈ ["bold red", "bold green", "yellow", "cyan"]) :
    Markup.isStyle style.toList = true := by
  have hall : ∀ style ∈ ["bold red", "bold green", "yellow", "cyan"],
      Markup.isStyle style.toList = true := by decide +kernel
  exact hall style h

theorem readable_severity (severity : Severity) :
    Readable (styled (severityStyle severity) severity.name) := by
  have hread : Readable (styled (severityStyle severity) severity.name ++ "") :=
    readable_styled (isStyle_of_mem (by cases severity <;> decide))
      (by cases severity <;> decide) (by decide)
  rwa [String.append_empty] at hread

theorem readable_code (code : Code) : Readable code.name :=
  readable_plain (by cases code <;> decide)

theorem not_mem_numberText (n : Nat) : '[' ∉ (numberText n).toList := by
  rw [numberText, String.toList_ofList, decimalDigits]
  intro hmem
  have hdigit := Nat.isDigit_of_mem_toDigits (by decide) (by decide) hmem
  exact absurd hdigit (by decide)

theorem readable_summary (report : Report) : Readable (summary report) := by
  -- the counts stand behind the closing tag
  have hcounts : summary report = (if report.valid then styled "bold green" "valid"
      else styled "bold red" "invalid") ++ (": " ++ numberText report.errors.length
        ++ " error(s), " ++ numberText report.warnings.length ++ " warning(s)") := by
    simp only [summary, String.append_assoc]
  have hback : '[' ∉ (": " ++ numberText report.errors.length ++ " error(s), "
      ++ numberText report.warnings.length ++ " warning(s)").toList := by
    simp [String.toList_append, not_mem_numberText]
  rw [hcounts]
  split
  · exact readable_styled (isStyle_of_mem (by decide)) (by decide) hback
  · exact readable_styled (isStyle_of_mem (by decide)) (by decide) hback

/-- The path of a checked file can be shown where it is printed. -/
def ShowsPath (checked : Bool) (path : String) : Prop :=
  Readable (if checked then "Validation Report: " ++ path
    else styled "cyan" path ++ ": no AI nodes, nothing to check")

/-- A path without opening brackets can be shown. -/
theorem showsPath_plain {path : String} (h : '[' ∉ path.toList) (checked : Bool) :
    ShowsPath checked path := by
  unfold ShowsPath
  split
  · refine readable_plain ?_
    rw [String.toList_append, List.mem_append, not_or]
    exact ⟨by decide, h⟩
  · exact readable_styled (isStyle_of_mem (by decide)) h (by decide)

theorem readable_diagnosticCells {d : Diagnostic} {text : String} (h : text ∈ diagnosticCells d) :
    Readable text := by
  simp only [diagnosticCells, List.mem_cons, List.not_mem_nil, or_false] at h
  rcases h with rfl | rfl | rfl | rfl
  · exact readable_severity d.severity
  · exact readable_code d.code
  · exact readable_escaped d.nodeName
  · exact readable_escaped d.message

/-- **The blocks of a checked file can be printed when its path can be shown.** -/
theorem resultBlocks_readable_iff {path : String} {report : Report} :
    (∀ block ∈ resultBlocks ⟨path, .ok report⟩, ∀ text ∈ block.texts, Readable text)
      ↔ ShowsPath report.checked path := by
  unfold resultBlocks ShowsPath
  dsimp only
  cases report.checked with
  | false => simp [Block.texts]
  | true =>
    have hcells : ∀ text ∈ (report.diagnostics.map diagnosticCells).flatten, Readable text := by
      intro text htext
      obtain ⟨cells, hcells, hmem⟩ := List.mem_flatten.1 htext
      obtain ⟨d, -, rfl⟩ := List.mem_map.1 hcells
      exact readable_diagnosticCells hmem
    have htable : (∀ text ∈ (Block.table (some ("Validation Report: " ++ path)) diagnosticHeader
        (report.diagnostics.map diagnosticCells)).texts, Readable text)
          ↔ Readable ("Validation Report: " ++ path) := by
      rw [Block.texts, Option.toList_some, List.singleton_append, List.forall_mem_cons]
      exact and_iff_left hcells
    have hline : ∀ text ∈ (Block.line (summary report)).texts, Readable text :=
      List.forall_mem_singleton.2 (readable_summary report)
    rw [if_pos rfl, if_pos rfl, List.forall_mem_cons, List.forall_mem_singleton, htable]
    exact and_iff_left hline

end FlowLint.Command
