import FlowLint.File.Workflow
import FlowLint.Proofs.Graph.FromDocument
import FlowLint.Proofs.Yaml.Values

/-!
# Loaded workflows

A graph that is loaded from a file has a connection table without repeated keys, whichever the
format of the file (`tableDistinct_of_load`), and so have its nodes parameters and credentials
(`bagsDistinct_of_load`). What is proved of such graphs is proved of every loaded graph.

An escape in a file can name one half of a surrogate pair without the other. A half is no character:
another one stands for it when it is read, and there is no printing it. What is proved of printing
is proved of files whose texts are whole (`Workflow.isWhole`, `Settings.isWhole`), with no such
escape in them.
-/

namespace FlowLint

/-! ## Halves of pairs -/

/-- Every half of a pair that a JSON text escapes has its partner beside it. `half` tells that the
first half of a pair stands right in front, so that the second has to follow. -/
def Json.isWholeAfter (half : Bool) : List Char → Bool
  | '\\' :: 'u' :: a :: b :: c :: d :: rest =>
    match hexQuad? a b c d with
    | some unit =>
      if isLowSurrogate unit then half && isWholeAfter false rest
      else !half && isWholeAfter (isHighSurrogate unit) rest
    | none => !half && isWholeAfter false rest
  | '\\' :: _ :: rest => !half && isWholeAfter false rest
  | _ :: rest => !half && isWholeAfter false rest
  | [] => !half

/-- A YAML text escapes no half of a pair; in such a text two halves do not make one. A backslash
outside of quotation marks counts as well. -/
def Yaml.isWhole : List Char → Bool
  | '\\' :: letter :: rest =>
    let unit? := (escapeWidth? letter).bind fun width => numeral? 16 (rest.take width)
    !(unit?.any fun unit => Json.isHighSurrogate unit || Json.isLowSurrogate unit) && isWhole rest
  | _ :: rest => isWhole rest
  | [] => true

/-- A surrogate pair is whole in JSON, and its halves are not; in YAML a pair is not, either. -/
example :
    Json.isWholeAfter false "\\ud83d\\ude00".toList = true
    ∧ Json.isWholeAfter false "\\ud83d \\ude00".toList = false
    ∧ Yaml.isWhole "\\ud83d\\ude00".toList = false := by decide

/-- The text of a file under a path, if there is one, passes a test. -/
def FileSystem.reads (system : FileSystem) (test : List Char → Bool) (path : Path) : Bool :=
  match system.readText path with
  | .ok text => test text
  | .error _ => true

/-- No half of a pair is escaped in a workflow file, in the format that its path names. -/
def Workflow.isWhole (system : FileSystem) (path : Path) : Bool :=
  system.reads (if path.isYaml then Yaml.isWhole else Json.isWholeAfter false) path

/-- No half of a pair is escaped in a settings file. -/
def Settings.isWhole (system : FileSystem) (path : Path) : Bool :=
  system.reads Yaml.isWhole path

/-! ## What is loaded -/

namespace Workflow

/-- The document of a file is keyed, in both formats. -/
theorem keyed_of_document {path : Path} {text : List Char} {value : Value}
    (h : document path text = .ok value) : value.Keyed := by
  unfold document at h
  split at h
  · split at h
    · next hread =>
      cases h
      exact Yaml.keyed_of_read hread
    · exact nomatch h
    · exact nomatch h
  · split at h
    · next hread =>
      cases h
      exact (Json.isJson_of_read hread).keyed
    · exact nomatch h
    · exact nomatch h

/-- A loaded graph is read from a keyed document. -/
theorem exists_keyed_of_load {system : FileSystem} {path : Path} {g : Graph}
    (h : load system path = .ok g) :
    ∃ value : Value, value.Keyed ∧ Graph.ofValue value = .ok g := by
  unfold load at h
  split at h
  · exact nomatch h
  · exact nomatch h
  · exact nomatch h
  · obtain ⟨value, hvalue, hgraph⟩ := Outcome.bind_eq_ok_iff.1 h
    exact ⟨value, keyed_of_document hvalue, Outcome.mapError_eq_ok_iff.1 hgraph⟩

/-- **The table of a loaded graph holds no key twice.** -/
theorem tableDistinct_of_load {system : FileSystem} {path : Path} {g : Graph}
    (h : load system path = .ok g) : g.TableDistinct := by
  obtain ⟨value, hvalue, hgraph⟩ := exists_keyed_of_load h
  exact Graph.tableDistinct_of_keyed hvalue hgraph

/-- **The bags of a loaded graph hold no key twice.** -/
theorem bagsDistinct_of_load {system : FileSystem} {path : Path} {g : Graph}
    (h : load system path = .ok g) : g.BagsDistinct := by
  obtain ⟨value, hvalue, hgraph⟩ := exists_keyed_of_load h
  exact Graph.bagsDistinct_of_keyed hvalue hgraph

end Workflow

end FlowLint
