import FlowLint.Text.Blank
import FlowLint.Value.Basic

/-!
# Parameters of nodes

Access to the parameters of a node, which are document values of any shape. A parameter that is null
counts as absent; zero, false and the empty text are values like any other.
-/

namespace FlowLint

namespace Members

/-- The value of a parameter, if it is there and not null. -/
def param? (params : Members) (key : String) : Option Value :=
  match params.get? key with
  | some .null => none
  | found => found

theorem param?_eq_some_iff {params : Members} {key : String} {value : Value} :
    params.param? key = some value ↔ params.get? key = some value ∧ value ≠ .null := by
  rw [param?]
  split
  · next hnull =>
    rw [hnull]
    exact iff_of_false nofun fun ⟨hsame, hvalue⟩ => hvalue (Option.some.inj hsame).symm
  · next hnull =>
    refine ⟨fun hfound => ⟨hfound, ?_⟩, And.left⟩
    rintro rfl
    exact hnull hfound

end Members

namespace Value

/-- The value of a parameter; only mappings have parameters. -/
def param? (value : Value) (key : String) : Option Value :=
  value.members?.bind (Members.param? · key)

/-- A parameter of the value or, when it is absent there, of its options. -/
def option? (value : Value) (key : String) : Option Value :=
  value.param? key <|> (value.param? "options").bind (·.param? key)

/-- What a value refers to: the inner value of a resource locator, which is a mapping with a member
`value`, and itself for any other value. -/
def resource? (value : Value) : Option Value :=
  match value.members?.bind (Members.get? · "value") with
  | some .null => none
  | some inner => some inner
  | none => some value

/-- A text of blanks, or a list or mapping without parts. Octets and sets never count as empty. -/
def isEmpty (value : Value) : Bool :=
  match value.unfold with
  | .text s => Text.allBlank s.toList
  | .list items => items.isEmpty
  | .map members => members.isEmpty
  | _ => false

end Value

namespace Members

/-- A parameter or, when it is absent, the option of that name. -/
def option? (params : Members) (key : String) : Option Value :=
  Value.option? (.map params) key

end Members

namespace Param

/-- What an optional value refers to. -/
def resource? (value : Option Value) : Option Value :=
  value.bind Value.resource?

/-- The value is absent, or refers to nothing or to an empty value. -/
def isBlank (value : Option Value) : Bool :=
  match resource? value with
  | some inner => inner.isEmpty
  | none => true

/-- The value is there and is the literal true. -/
def isTrue (value : Option Value) : Bool :=
  match value with
  | some v => v.isTrue
  | none => false

theorem isTrue_iff {value : Option Value} : isTrue value = true ↔ value = some (.bool true) := by
  cases value with
  | none => simp [isTrue]
  | some v =>
    cases v with
    | scalar s =>
      cases s with
      | bool b => cases b <;> simp [isTrue, Value.isTrue]
      | _ => simp [isTrue, Value.isTrue]
    | _ => simp [isTrue, Value.isTrue]

def number? (value : Option Value) : Option Number :=
  value.bind Value.number?

def text? (value : Option Value) : Option String :=
  value.bind Value.text?

theorem text?_eq_some_iff {value : Option Value} {s : String} :
    text? value = some s ↔ value = some (.text s) := by
  cases value with
  | none => simp [text?]
  | some v =>
    cases v with
    | scalar sc => cases sc <;> simp [text?, Value.text?]
    | _ => simp [text?, Value.text?]

/-- The text that a value is, without blanks at its ends; empty for any other value. -/
def trimmedText (value : Option Value) : List Char :=
  match text? value with
  | some s => Text.trim s.toList
  | none => []

def isText (value : Option Value) (s : String) : Bool :=
  text? value == some s

theorem text?_param?_iff {params : Members} {key s : String} :
    text? (params.param? key) = some s ↔ params.get? key = some (.text s) := by
  rw [text?_eq_some_iff, Members.param?_eq_some_iff]
  exact and_iff_left_of_imp fun _ => by simp

theorem isText_param?_iff {params : Members} {key s : String} :
    isText (params.param? key) s = true ↔ params.get? key = some (.text s) := by
  rw [isText, beq_iff_eq, text?_param?_iff]

end Param

end FlowLint
