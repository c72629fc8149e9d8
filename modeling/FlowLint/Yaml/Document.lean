import FlowLint.Yaml.Tag

/-!
# YAML documents

A document is a table of nodes that refer to their parts by number. A node to which several aliases
lead stands in one place of the table, and a collection can be a part of itself. The first node is
the whole document.
-/

namespace FlowLint.Yaml

/-- The number of a node in its document. -/
abbrev NodeId := Nat

/-- What a node holds. -/
inductive Content where
  | scalar (text : String)
  | sequence (items : List NodeId)
  | mapping (members : List (NodeId × NodeId))
deriving DecidableEq, Repr, Inhabited

/-- A node of a known kind. -/
structure Node where
  tag : Tag
  content : Content
deriving DecidableEq, Repr, Inhabited

/-- The nodes of a document. -/
structure Document where
  nodes : Array Node := #[]
  /-- Some alias stands inside the node that it names. -/
  looped : Bool := false
deriving Inhabited

namespace Document

/-- The node that the whole document consists of. -/
def root : NodeId := 0

def node (document : Document) (id : NodeId) : Node :=
  document.nodes.getD id default

/-- The kind of a node. -/
def tag (document : Document) (id : NodeId) : Tag :=
  (document.node id).tag

/-- What a node holds. -/
def content (document : Document) (id : NodeId) : Content :=
  (document.node id).content

/-- Adds a node; its number is the size of the table before. -/
def add (document : Document) (node : Node) : Document :=
  { document with nodes := document.nodes.push node }

/-- The document with another node in the place of one. -/
def update (document : Document) (id : NodeId) (node : Node) : Document :=
  { document with nodes := document.nodes.setIfInBounds id node }

/-- The document with the kind of a node changed. -/
def retag (document : Document) (id : NodeId) (tag : Tag) : Document :=
  document.update id { document.node id with tag }

/-- The document with the content of a node changed. -/
def setContent (document : Document) (id : NodeId) (content : Content) : Document :=
  document.update id { document.node id with content }

end Document

end FlowLint.Yaml
