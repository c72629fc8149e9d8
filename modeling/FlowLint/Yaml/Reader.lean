import FlowLint.Yaml.Construction
import FlowLint.Yaml.Grammar

/-!
# Reading YAML

The value that a YAML text denotes, in the steps of the modules before: the tokens of the text, the
document that they form, and what its nodes denote.
-/

namespace FlowLint.Yaml

/-- Reads a YAML text. A text without a document is null. -/
def read (text : List Char) : Except Fault Value := do
  match ← Document.ofTokens? (TokenRun.ofText text) with
  | none => return .null
  | some document => return (← document.construct).value

end FlowLint.Yaml
