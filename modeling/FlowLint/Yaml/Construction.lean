import FlowLint.Yaml.Merge
import FlowLint.Yaml.ScalarValue

/-!
# What the nodes of a YAML document denote

Nodes are made in rounds. A scalar is made where it is met; a collection is only begun there, and
filled in the next round, when its parts are met. So of two faults the one on the outer level comes
first, and of two on one level the earlier one. Every node is made once (`Document.construct`).

The value of a document is put together at the end (`Construction.value`). A collection that
contains itself becomes a knot, and the places inside that lead back to it say so.

The keys of a mapping are united twice, by their nodes and by their values. By its value a nan is
never the key that is there, as it equals nothing. But it is one key where one node is used twice
through an alias, and so are all nans that are written by name (`Document.sameKeyNode`).
-/

namespace FlowLint.Yaml

/-- What a node has become: a scalar, a collection still to be filled, or a collection of parts. -/
inductive Made where
  | scalar (value : Scalar)
  | begun
  | sequence (items : List NodeId)
  | mapping (members : List (Scalar × NodeId))
  | pairs (pairs : List (NodeId × NodeId))
  | set (keys : List Scalar)
deriving Repr, Inhabited

namespace Document

/-- The text of a node that is read as a scalar: a mapping has the text under its default key. A
mapping whose default key leads back to it has no end. -/
def scalarText (document : Document) (id : NodeId) : Nat → Except Fault String
  | 0 => .error (.misfit .tooDeep)
  | fuel + 1 =>
    match document.content id with
    | .scalar text => .ok text
    | .sequence _ => .error (.malformed .tagMismatch)
    | .mapping members =>
      match members.find? fun member => document.tag member.1 == .defaultValue with
      | some (_, value) => document.scalarText value fuel
      | none => .error (.malformed .tagMismatch)

/-- The scalar that a node denotes. A timestamp is looked for in the node itself. -/
def scalar (document : Document) (id : NodeId) : Except Fault Scalar := do
  let tag := document.tag id
  if !tag.isKnown then throw (.malformed .unknownTag)
  let text ← document.scalarText id (document.nodes.size + 1)
  if tag == .timestamp && document.isMapping id then throw (.misfit .timestampMapping)
  tag.scalar text

/-- Two keys are one by their nodes: they are one node, or both are written with the name of the
value that is no number, which is one value although it differs from itself. -/
def sameKeyNode (document : Document) (a b : NodeId) : Bool :=
  a == b || (isNan a && isNan b)
where
  isNan (id : NodeId) : Bool :=
    document.tag id == .float &&
      match document.scalarText id (document.nodes.size + 1) with
      | .ok text => isNanName text.toList
      | .error _ => false

end Document

/-- The state between two nodes. -/
structure Construction where
  document : Document
  made : Array (Option Made)
  /-- At least the count of merge keys. -/
  mergeCount : Nat
  /-- The collections begun in this round, the last one first. -/
  begun : List NodeId := []

namespace Construction

def ofDocument (document : Document) : Construction where
  document
  made := Array.replicate document.nodes.size none
  mergeCount := document.mergeCount

/-- What a node has become, once it has been met. -/
def made? (state : Construction) (id : NodeId) : Option Made :=
  state.made.getD id none

def set (state : Construction) (id : NodeId) (made : Made) : Construction :=
  { state with made := state.made.setIfInBounds id (some made) }

/-- A node is met: a scalar is made, and a collection is begun. -/
def meet (state : Construction) (id : NodeId) : Except Fault Construction :=
  if (state.made? id).isSome then .ok state
  else if (state.document.tag id).isCollection then
    .ok { state.set id .begun with begun := id :: state.begun }
  else do
    let value ← state.document.scalar id
    return state.set id (.scalar value)

def key (state : Construction) (id : NodeId) : Except Fault Scalar :=
  match state.made? id with
  | some (.scalar value) => .ok value
  | _ => .error (.malformed .collectionAsKey)

/-- Meets the members of a mapping one by one, each key before its value. -/
def meetMembers (state : Construction) :
    List (NodeId × NodeId) → Except Fault (List (Scalar × NodeId × NodeId) × Construction)
  | [] => .ok ([], state)
  | (key, value) :: rest => do
    let state ← state.meet key
    let scalar ← state.key key
    let state ← state.meet value
    let (members, state) ← state.meetMembers rest
    return ((scalar, key, value) :: members, state)

/-- Sets a member: of two members with one key node the first keeps its place, and takes the value.
-/
def setMember (same : NodeId → NodeId → Bool) (member : Scalar × NodeId × NodeId) :
    List (Scalar × NodeId × NodeId) → List (Scalar × NodeId × NodeId)
  | [] => [member]
  | first :: rest =>
    if same first.2.1 member.2.1 then (first.1, first.2.1, member.2.2) :: rest
    else first :: setMember same member rest

/-- The members with key nodes that differ. -/
def uniteKeys (same : NodeId → NodeId → Bool) (members : List (Scalar × NodeId × NodeId)) :
    List (Scalar × NodeId) :=
  (members.foldl (fun united member => setMember same member united) []).map
    fun (scalar, _, value) => (scalar, value)

/-- Meets the parts of a mapping after its merge keys have been replaced. -/
def fillMembers (state : Construction) (id : NodeId) :
    Except Fault (List (Scalar × NodeId) × Construction) := do
  if !state.document.isMapping id then throw (.malformed .tagMismatch)
  let document ← state.document.flatten state.mergeCount id
  let (members, state) ← ({ state with document } : Construction).meetMembers (document.members id)
  return (uniteKeys document.sameKeyNode members, state)

/-- Meets the only member of every mapping in a sequence. -/
def meetPairs (state : Construction) :
    List NodeId → Except Fault (List (NodeId × NodeId) × Construction)
  | [] => .ok ([], state)
  | item :: rest =>
    match state.document.content item with
    | .mapping [(key, value)] => do
      let state ← (← state.meet key).meet value
      let (pairs, state) ← state.meetPairs rest
      return ((key, value) :: pairs, state)
    | _ => .error (.malformed .tagMismatch)

def fill (state : Construction) (id : NodeId) : Except Fault Construction := do
  match state.document.tag id, state.document.content id with
  | .sequence, .sequence items =>
    return (← items.foldlM meet state).set id (.sequence items)
  | .mapping, _ =>
    let (members, state) ← state.fillMembers id
    return state.set id (.mapping members)
  | .set, _ =>
    let (members, state) ← state.fillMembers id
    return state.set id (.set (members.map (·.1)))
  | .orderedMap, .sequence items | .pairs, .sequence items =>
    let (pairs, state) ← state.meetPairs items
    return state.set id (.pairs pairs)
  | _, _ => throw (.malformed .tagMismatch)

/-- Fills collections round by round until no more are begun. No node is begun twice, so the count
of nodes is fuel enough. -/
def rounds (state : Construction) : Nat → Except Fault Construction
  | 0 => .ok state
  | fuel + 1 =>
    if state.begun.isEmpty then .ok state
    else do
      (← state.begun.reverse.foldlM fill { state with begun := [] }).rounds fuel

end Construction

/-- Makes all nodes of a document that can be met from its root. -/
def Document.construct (document : Document) : Except Fault Construction := do
  (← (Construction.ofDocument document).meet root).rounds (document.nodes.size + 1)

namespace Construction

/-! ## Values -/

/-- The parts of what a node has become. -/
def parts (state : Construction) (id : NodeId) : List NodeId :=
  match state.made? id with
  | some (.sequence items) => items
  | some (.mapping members) => members.map (·.2)
  | some (.pairs pairs) => pairs.flatMap fun (first, second) => [first, second]
  | _ => []

/-- The nodes that can be reached from those of the frontier, besides those seen before. -/
def reach (state : Construction) (seen : List NodeId) : List NodeId → Nat → List NodeId
  | _, 0 => seen
  | [], _ => seen
  | id :: rest, fuel + 1 =>
    if seen.contains id then state.reach seen rest fuel
    else state.reach (id :: seen) (state.parts id ++ rest) fuel

def partCount (state : Construction) : Nat :=
  (List.range state.made.size).foldl (fun count id => count + (state.parts id).length) 0

/-- The nodes that are parts of themselves. Without an alias inside its own node there are none. -/
def cyclic (state : Construction) : List NodeId :=
  if state.document.looped then
    (List.range state.made.size).filter fun id =>
      (state.reach [] (state.parts id) (2 * state.partCount + 1)).contains id
  else []

/-- The values put together so far, of nodes that are not parts of themselves. -/
abbrev Values := Array (Option Value)

/-- The value of a node. `around` holds the cyclic nodes around it. On the way from the root to a
place no node stands twice but the last, so two more than the count of nodes is fuel enough. -/
def valueWith (state : Construction) (cyclic around : List NodeId) (id : NodeId) :
    Nat → StateM Values Value
  | 0 => return .null
  | fuel + 1 => do
    if around.contains id then return .back id
    else
      match (← get).getD id none with
      | some value => return value
      | none =>
        let inside := cyclic.contains id
        let part (part : NodeId) : StateM Values Value :=
          state.valueWith cyclic (if inside then id :: around else around) part fuel
        let body : Value ←
          match state.made? id with
          | some (.scalar s) => pure (.scalar s)
          | some (.sequence items) => pure (.list (← items.mapM part))
          | some (.mapping members) =>
            let pairs ← members.mapM fun (key, value) => do return (key, ← part value)
            pure (.map (Members.ofPairs pairs))
          | some (.pairs pairs) =>
            let items ← pairs.mapM fun (first, second) => do
              let one ← part first
              return Value.pair one (← part second)
            pure (.list items)
          | some (.set keys) =>
            pure (.set ((Members.ofPairs (keys.map fun key => (key, .null))).map (·.1)))
          | some .begun | none => pure .null
        if inside then return .knot id body
        else
          modify fun values => values.setIfInBounds id (some body)
          return body

def value (state : Construction) : Value :=
  ((state.valueWith state.cyclic [] Document.root (state.made.size + 2)).run
    (Array.replicate state.made.size none)).run.1

end Construction

end FlowLint.Yaml
