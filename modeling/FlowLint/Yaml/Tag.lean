/-!
# Kinds of YAML nodes

What a tag makes of a node. The standard kinds have names under one common beginning; every other
tag is unknown here.
-/

namespace FlowLint.Yaml

/-- The kind of a node. -/
inductive Tag where
  | null
  | bool
  | int
  | float
  | text
  | timestamp
  | binary
  | merge
  | defaultValue
  | sequence
  | mapping
  | orderedMap
  | pairs
  | set
  | other (uri : String)
deriving DecidableEq, Repr, Inhabited

namespace Tag

/-- What the tags of the standard kinds start with. -/
def standardStart : String := "tag:yaml.org,2002:"

def standardNames : List (String × Tag) :=
  [("null", .null), ("bool", .bool), ("int", .int), ("float", .float), ("str", .text),
    ("timestamp", .timestamp), ("binary", .binary), ("merge", .merge), ("value", .defaultValue),
    ("seq", .sequence), ("map", .mapping), ("omap", .orderedMap), ("pairs", .pairs), ("set", .set)]

def ofUri (uri : String) : Tag :=
  match standardStart.toList.isPrefixOf? uri.toList with
  | some name => (standardNames.lookup (String.ofList name)).getD (.other uri)
  | none => .other uri

/-- The kind makes a collection of a node. -/
def isCollection : Tag → Bool
  | .sequence | .mapping | .orderedMap | .pairs | .set => true
  | _ => false

/-- The kind makes something of a node. -/
def isKnown : Tag → Bool
  | .merge | .defaultValue | .other _ => false
  | _ => true

end Tag

end FlowLint.Yaml
