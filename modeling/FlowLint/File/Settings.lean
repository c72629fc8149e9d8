import FlowLint.File.Fault
import FlowLint.Settings.Basic
import FlowLint.Yaml.Reader

/-!
# Settings files

Settings are read from a YAML mapping. No file and an empty file give the defaults. Some faults are
those of a settings file; the others are those that no file is blamed for, and those of a scalar or
of the keys, which are reported as such.
-/

namespace FlowLint

/-- Why a settings file is refused. -/
inductive SettingsFailure where
  | unreadable (path : Path) (cause : ReadFault)
  | malformed (path : Path) (problem : Yaml.Problem)
  | notMapping (path : Path)
  | invalid (path : Path) (issues : List SettingIssue)
deriving Repr

/-- The wording of a failure. What is wrong with a YAML text is not told. -/
def SettingsFailure.message : SettingsFailure → String
  | .unreadable path cause =>
    "Could not read settings from " ++ path.text ++ ": " ++ cause.message path
  | .malformed path _ => "Could not read settings from " ++ path.text
  | .notMapping path => "Settings file " ++ path.text ++ " must contain a mapping."
  | .invalid path _ => "Invalid settings in " ++ path.text

/-- Why no settings come from a file. -/
inductive SettingsFault where
  | failure (failure : SettingsFailure)
  | file (cause : FileFault)
  | badValue (cause : Yaml.BadValue)
  | keysNotText
deriving Repr

def SettingsFault.message : SettingsFault → String
  | .failure cause => cause.message
  | .file cause => cause.message
  | .badValue cause => cause.message
  | .keysNotText => "keywords must be strings"

namespace Settings

def ofValue (path : Path) (value : Value) : Except SettingsFault Settings :=
  match value with
  | .null => .ok defaults
  | value =>
    match value.members? with
    | some members =>
      if members.keysNotText.isEmpty then
        (ofMembers members).mapError fun issues => .failure (.invalid path issues)
      else .error .keysNotText
    | none => .error (.failure (.notMapping path))

def ofText (path : Path) (text : List Char) : Except SettingsFault Settings :=
  match Yaml.read text with
  | .ok value => ofValue path value
  | .error (.malformed problem) => .error (.failure (.malformed path problem))
  | .error (.badValue cause) => .error (.badValue cause)
  | .error (.misfit cause) => .error (.file (.misfit cause))

/-- The settings of a file; without a file, the defaults. -/
def load (system : FileSystem) (path? : Option Path) : Except SettingsFault Settings :=
  match path? with
  | none => .ok defaults
  | some path =>
    match system.readText path with
    | .ok text => ofText path text
    | .error (.unreadable cause) => .error (.failure (.unreadable path cause))
    | .error .nullInPath => .error (.file .nullInPath)
    | .error (.undecodable cause) => .error (.file (.undecodable cause))

end Settings

end FlowLint
