import FlowLint.File.System
import FlowLint.Json.Fault
import FlowLint.Yaml.Fault

/-!
# Faults that no file is blamed for

Some faults end the reading of a file without being told as a fault of that file: its path is none,
its octets are no text, its collections stand too deep inside one another, or one of its scalars is
a misfit. Whoever reads files passes them on.
-/

namespace FlowLint

/-- Why nothing can be told about the content of a file. -/
inductive FileFault where
  | nullInPath
  | undecodable (cause : Utf8.Fault)
  | tooDeep (collection : Json.Collection)
  | misfit (cause : Yaml.Misfit)
deriving DecidableEq, Repr

def FileFault.message : FileFault → String
  | .nullInPath => "embedded null byte"
  | .undecodable cause => cause.message
  | .tooDeep collection => Json.tooDeepMessage collection
  | .misfit cause => cause.message

end FlowLint
