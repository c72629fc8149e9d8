import FlowLint.Settings.Integer

/-!
# Settings

The thresholds of the checks. Each has a least value, which its type keeps, and a default. Settings
are read from the members of a mapping; all faults of a mapping are reported together.
-/

namespace FlowLint

/-- A threshold that is at least a given number. -/
structure Threshold (least : Nat) where
  value : Nat
  least_le : least ≤ value := by decide
deriving DecidableEq, Repr

/-- The thresholds of the checks. -/
structure Settings where
  maxLanguageModels : Threshold 1 := ⟨2, by decide⟩
  minSystemMessageLength : Threshold 0 := ⟨20, by decide⟩
  maxIterationsWarning : Threshold 1 := ⟨50, by decide⟩
  maxTopKWarning : Threshold 1 := ⟨20, by decide⟩
  minToolDescriptionLength : Threshold 0 := ⟨15, by decide⟩
deriving DecidableEq, Repr

/-- The fields of settings. -/
inductive SettingsField where
  | maxLanguageModels
  | minSystemMessageLength
  | maxIterationsWarning
  | maxTopKWarning
  | minToolDescriptionLength
deriving DecidableEq, Repr

namespace SettingsField

/-- The fields in the order in which their faults are reported. -/
def all : List SettingsField :=
  [.maxLanguageModels, .minSystemMessageLength, .maxIterationsWarning, .maxTopKWarning,
    .minToolDescriptionLength]

def name : SettingsField → String
  | .maxLanguageModels => "max_language_models"
  | .minSystemMessageLength => "min_system_message_length"
  | .maxIterationsWarning => "max_iterations_warning"
  | .maxTopKWarning => "max_topk_warning"
  | .minToolDescriptionLength => "min_tool_description_length"

end SettingsField

/-- What is wrong with one member of a settings mapping. -/
inductive SettingFault where
  | notInteger (cause : IntegerFault)
  | belowLeast
  | unknownField
deriving DecidableEq, Repr

/-- A member of a settings mapping and what is wrong with it. -/
structure SettingIssue where
  field : String
  fault : SettingFault
deriving DecidableEq, Repr

namespace Settings

/-- The settings in which every field has its default. -/
def defaults : Settings :=
  {}

def get (settings : Settings) : SettingsField → Nat
  | .maxLanguageModels => settings.maxLanguageModels.value
  | .minSystemMessageLength => settings.minSystemMessageLength.value
  | .maxIterationsWarning => settings.maxIterationsWarning.value
  | .maxTopKWarning => settings.maxTopKWarning.value
  | .minToolDescriptionLength => settings.minToolDescriptionLength.value

def threshold (least : Nat) (value : Value) : Except SettingFault (Threshold least) :=
  match LenientInteger.ofValue value with
  | .error cause => .error (.notInteger cause)
  | .ok n =>
    if h : (least : Int) ≤ n then .ok ⟨n.toNat, by omega⟩ else .error .belowLeast

/-- The threshold that a mapping gives for a field, or its default. -/
def field {least : Nat} (given : Members) (f : SettingsField) (default : Threshold least) :
    Except SettingFault (Threshold least) :=
  match given.get? f.name with
  | some value => threshold least value
  | none => .ok default

/-- The issue of a field, if it has one. -/
def issue? (f : SettingsField) (outcome : Except SettingFault α) : Option SettingIssue :=
  match outcome with
  | .ok _ => none
  | .error fault => some ⟨f.name, fault⟩

/-- The names in a mapping that are no fields, as issues. -/
def unknownIssues (given : Members) : List SettingIssue :=
  given.filterMap fun member =>
    match member.1 with
    | .text name =>
      if SettingsField.all.any (·.name == name) then none else some ⟨name, .unknownField⟩
    | _ => none

/-- The settings that a mapping states, the fields it does not give having their defaults. The
issues of fields come in the order of the fields, and those of other names after them. -/
def ofMembers (given : Members) : Except (List SettingIssue) Settings :=
  let models := field given .maxLanguageModels defaults.maxLanguageModels
  let message := field given .minSystemMessageLength defaults.minSystemMessageLength
  let iterations := field given .maxIterationsWarning defaults.maxIterationsWarning
  let topK := field given .maxTopKWarning defaults.maxTopKWarning
  let description := field given .minToolDescriptionLength defaults.minToolDescriptionLength
  let issues :=
    [issue? .maxLanguageModels models, issue? .minSystemMessageLength message,
      issue? .maxIterationsWarning iterations, issue? .maxTopKWarning topK,
      issue? .minToolDescriptionLength description].filterMap id ++ unknownIssues given
  match models, message, iterations, topK, description, issues with
  | .ok models, .ok message, .ok iterations, .ok topK, .ok description, [] =>
    .ok ⟨models, message, iterations, topK, description⟩
  | _, _, _, _, _, issues => .error issues

end Settings

end FlowLint
