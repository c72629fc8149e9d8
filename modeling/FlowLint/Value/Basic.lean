import FlowLint.Number.Shortest
import FlowLint.Value.Timestamp

/-!
# Document values

What a JSON or YAML document is made of: scalars, lists, and mappings whose keys are scalars and
keep their order. A mapping holds no key twice: setting a key that is there replaces its value and
keeps its place. Numbers that are equal are one key, whatever their kind, and the truth values count
as zero and one. A nan equals no key; a reader that meets one nan twice unites the two before. YAML
also has octets, sets of scalars, and pairs, which are the items of ordered mappings.

A YAML document can hold a list or a mapping that contains itself. Such a collection is a `knot`: it
has a number, and inside it `back` with that number stands for the whole. `Value.unfold` opens a
knot by one step, so that what is inside can be looked at on its own.

Main statement: `get?_set` says what a mapping holds under a text after one member is set.
-/

namespace FlowLint

/-- A value without parts. -/
inductive Scalar where
  | null
  | bool (value : Bool)
  | int (value : Int)
  | float (value : Binary64)
  | text (value : String)
  | octets (value : List UInt8)
  | time (value : Timestamp)
deriving DecidableEq, Repr, Inhabited

/-- A document value. -/
inductive Value where
  | scalar (value : Scalar)
  | list (items : List Value)
  | map (members : List (Scalar × Value))
  | pair (first second : Value)
  | set (members : List Scalar)
  | knot (number : Nat) (body : Value)
  | back (number : Nat)
deriving BEq, Repr, Inhabited

/-- The members of a mapping in their order. -/
abbrev Members := List (Scalar × Value)

/-- A number as a workflow can state it: an integer of any size or a floating-point number. -/
inductive Number where
  | int (value : Int)
  | float (value : Binary64)
deriving DecidableEq, Repr, Inhabited

namespace Number

/-- The exact order of a number against an integer; a nan has none. -/
def compareInt : Number → Int → Option Ordering
  | .int n, bound => some (compare n bound)
  | .float x, bound => x.compareInt bound

/-- The number is below the bound; a nan is not. -/
def ltInt (x : Number) (bound : Int) : Bool :=
  x.compareInt bound == some .lt

/-- The number is above the bound; a nan is not. -/
def gtInt (x : Number) (bound : Int) : Bool :=
  x.compareInt bound == some .gt

/-- The decimal text of an integer, or the shortest text of a floating-point number. -/
def text : Number → String
  | .int n => integerText n
  | .float x => x.text

/-- Equality of the values, an integer and a floating-point number being comparable. -/
def same : Number → Number → Bool
  | .int n, .int n' => n == n'
  | .int n, .float x | .float x, .int n => x.compareInt n == some .eq
  | .float x, .float x' => x.same x'

end Number

namespace Scalar

/-- The number that a scalar is; truth values are no numbers. -/
def number? : Scalar → Option Number
  | .int n => some (.int n)
  | .float x => some (.float x)
  | _ => none

/-- The number that a scalar stands for as a key: the truth values stand for zero and one. -/
def keyNumber? : Scalar → Option Number
  | .bool b => some (.int (if b then 1 else 0))
  | s => s.number?

/-- Two scalars that a mapping takes for one key. -/
def sameKey (a b : Scalar) : Bool :=
  match a.keyNumber?, b.keyNumber? with
  | some x, some y => x.same y
  | none, none =>
    match a, b with
    | .time t, .time u => t.same u
    | _, _ => a == b
  | _, _ => false

theorem sameKey_text_iff (k : Scalar) (s : String) :
    sameKey k (.text s) = true ↔ k = .text s := by
  cases k <;> simp [sameKey, keyNumber?, number?]

theorem text_sameKey_iff (s : String) (k : Scalar) :
    sameKey (.text s) k = true ↔ k = .text s := by
  cases k with
  | text t =>
    simp only [sameKey, keyNumber?, number?, beq_iff_eq]
    exact eq_comm
  | _ => simp [sameKey, keyNumber?, number?]

end Scalar

namespace Members

/-- The value under a text key. -/
def get? (members : Members) (key : String) : Option Value :=
  (members.find? fun member => member.1 == .text key).map (·.2)

def contains (members : Members) (key : String) : Bool :=
  members.any fun member => member.1 == .text key

/-- Sets a member: the value of a key that is there is replaced, and a new key goes to the end. -/
def set (key : Scalar) (value : Value) : Members → Members
  | [] => [(key, value)]
  | (k, v) :: rest =>
    if k.sameKey key then (k, value) :: rest else (k, v) :: set key value rest

/-- The mapping of a list of pairs, set one after the other. -/
def ofPairs (pairs : List (Scalar × Value)) : Members :=
  pairs.foldl (fun members pair => set pair.1 pair.2 members) []

/-- The members other than those with the given text keys. -/
def without (members : Members) (keys : List String) : Members :=
  members.filter fun member =>
    match member.1 with
    | .text key => !keys.contains key
    | _ => true

/-- The keys that are no texts, in order. -/
def keysNotText (members : Members) : List Scalar :=
  (members.map (·.1)).filter fun key =>
    match key with
    | .text _ => false
    | _ => true

@[simp] theorem get?_nil (key : String) : get? [] key = none := rfl

theorem get?_cons (k : Scalar) (v : Value) (rest : Members) (key : String) :
    get? ((k, v) :: rest) key = if k = .text key then some v else get? rest key := by
  by_cases h : k = .text key <;> simp [get?, h]

theorem get?_set (members : Members) (key : Scalar) (value : Value) (other : String) :
    get? (set key value members) other
      = if key = .text other then some value else get? members other := by
  induction members with
  | nil => simp [set, get?_cons]
  | cons member rest ih =>
    obtain ⟨k, v⟩ := member
    by_cases hk : k.sameKey key = true
    · rw [set, if_pos hk, get?_cons, get?_cons]
      by_cases ho : k = .text other
      · subst ho
        simp [(Scalar.text_sameKey_iff other key).1 hk]
      · have hkey : key ≠ .text other := fun h =>
          ho ((Scalar.sameKey_text_iff k other).1 (h ▸ hk))
        simp [ho, hkey]
    · rw [set, if_neg hk, get?_cons, get?_cons, ih]
      by_cases ho : k = .text other
      · have hkey : key ≠ .text other := fun h =>
          hk (h ▸ (Scalar.sameKey_text_iff k other).2 ho)
        simp [ho, hkey]
      · simp [ho]

theorem without_cons (k : Scalar) (v : Value) (rest : Members) (keys : List String) :
    without ((k, v) :: rest) keys
      = if ∃ key ∈ keys, k = .text key then without rest keys
        else (k, v) :: without rest keys := by
  cases k <;> simp [without, List.filter_cons]

theorem get?_without (members : Members) (keys : List String) (key : String) :
    get? (without members keys) key = if key ∈ keys then none else get? members key := by
  induction members with
  | nil => simp [without]
  | cons member rest ih =>
    obtain ⟨k, v⟩ := member
    rw [without_cons, get?_cons]
    by_cases hk : k = .text key
    · subst hk
      by_cases hkey : key ∈ keys <;> simp [get?_cons, hkey, ih]
    · rw [if_neg hk]
      split
      · exact ih
      · rw [get?_cons, if_neg hk, ih]

end Members

namespace Value

/-- A text value. -/
@[match_pattern] abbrev text (s : String) : Value := .scalar (.text s)

@[match_pattern] abbrev null : Value := .scalar .null

@[match_pattern] abbrev bool (b : Bool) : Value := .scalar (.bool b)

@[match_pattern] abbrev int (n : Int) : Value := .scalar (.int n)

@[match_pattern] abbrev float (x : Binary64) : Value := .scalar (.float x)

def text? : Value → Option String
  | .text s => some s
  | _ => none

/-- The number that a value is; truth values are no numbers. -/
def number? : Value → Option Number
  | .scalar s => s.number?
  | _ => none

mutual

/-- The value with a whole put in the places that go back to it. -/
def tie (number : Nat) (whole : Value) : Value → Value
  | .scalar s => .scalar s
  | .list items => .list (tieItems number whole items)
  | .map members => .map (tieMembers number whole members)
  | .pair first second => .pair (tie number whole first) (tie number whole second)
  | .set members => .set members
  | .knot other body =>
    if other = number then .knot other body else .knot other (tie number whole body)
  | .back other => if other = number then whole else .back other

/-- The items of a list with a whole put in the places that go back to it. -/
def tieItems (number : Nat) (whole : Value) : List Value → List Value
  | [] => []
  | item :: rest => tie number whole item :: tieItems number whole rest

/-- The members of a mapping with a whole put in the places that go back to it. -/
def tieMembers (number : Nat) (whole : Value) :
    List (Scalar × Value) → List (Scalar × Value)
  | [] => []
  | (key, value) :: rest => (key, tie number whole value) :: tieMembers number whole rest

end

/-- The value with its outermost list or mapping in the open: a knot is untied by putting it in the
places that go back to it. -/
def unfold : Value → Value
  | .knot number body => tie number (.knot number body) body
  | value => value

def members? (value : Value) : Option Members :=
  match value.unfold with
  | .map members => some members
  | _ => none

def items? (value : Value) : Option (List Value) :=
  match value.unfold with
  | .list items => some items
  | _ => none

@[simp] theorem members?_map (members : Members) : members? (.map members) = some members := rfl

@[simp] theorem items?_list (items : List Value) : items? (.list items) = some items := rfl

/-- The value is the literal true. -/
def isTrue : Value → Bool
  | .bool true => true
  | _ => false

end Value

end FlowLint
