import FlowLint.Yaml.Document
import FlowLint.Yaml.Fault

/-!
# Merge keys

A member of a mapping under a merge key stands for the members of other mappings: those of the
mapping under it, or those of all mappings in the sequence under it, the last mapping first. What is
brought in stands before the members that the mapping has itself (`Document.flatten`). The mappings
brought in have their own merge keys replaced first; a mapping that brings in itself does so with
the members that are left at that moment.

A default key in a mapping that is read for its members is a text like every other.
-/

namespace FlowLint.Yaml.Document

/-- The members of a mapping; other nodes have none. -/
def members (document : Document) (id : NodeId) : List (NodeId × NodeId) :=
  match document.content id with
  | .mapping members => members
  | _ => []

/-- The node is a mapping, whatever its kind. -/
def isMapping (document : Document) (id : NodeId) : Bool :=
  match document.content id with
  | .mapping _ => true
  | _ => false

def mergeCount (document : Document) : Nat :=
  document.nodes.foldl (fun count node =>
    match node.content with
    | .mapping members => count + members.countP fun member => document.tag member.1 == .merge
    | _ => count) 0

/-- What stands under the first merge key among members, and the other members. -/
def takeMerge? (document : Document) :
    List (NodeId × NodeId) → Option (NodeId × List (NodeId × NodeId))
  | [] => none
  | (key, value) :: rest =>
    if document.tag key == .merge then some (value, rest)
    else (document.takeMerge? rest).map fun (found, others) => (found, (key, value) :: others)

/-- The mappings that a node under a merge key brings in. -/
def mergeSources (document : Document) (id : NodeId) : Except Fault (List NodeId) :=
  match document.content id with
  | .mapping _ => .ok [id]
  | .sequence items =>
    if items.all document.isMapping then .ok items else .error (.malformed .badMerge)
  | .scalar _ => .error (.malformed .badMerge)

/-- Makes the default keys among the keys of members texts. -/
def plainKeys (document : Document) (members : List (NodeId × NodeId)) : Document :=
  members.foldl (fun document member =>
    if document.tag member.1 == .defaultValue then document.retag member.1 .text else document)
    document

/-- Replaces the merge keys of a mapping. `brought` holds the members brought in so far. With every
step a member under a merge key goes, so one more than their count is fuel enough. -/
def flattenWith (brought : List (NodeId × NodeId)) (id : NodeId) :
    Nat → Document → Except Fault Document
  | 0, document => .ok document
  | fuel + 1, document =>
    let own := document.members id
    match document.takeMerge? own with
    | none => .ok ((document.plainKeys own).setContent id (.mapping (brought ++ own)))
    | some (source, others) => do
      let sources ← document.mergeSources source
      let start := document.setContent id (.mapping others)
      let (more, document) ← sources.foldlM (fun (more, document) source => do
        let document ← flattenWith [] source fuel document
        return (document.members source ++ more, document)) ([], start)
      flattenWith (brought ++ more) id fuel document

/-- Replaces the merge keys of a mapping; `count` is at least the count of merge keys in the
document. -/
def flatten (document : Document) (count : Nat) (id : NodeId) : Except Fault Document :=
  flattenWith [] id (count + 1) document

end FlowLint.Yaml.Document
