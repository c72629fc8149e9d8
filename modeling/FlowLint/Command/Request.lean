import FlowLint.File.Path
import FlowLint.Number.Numeral
import FlowLint.Text.Split

/-!
# Command lines

What a command line asks for. Options may stand anywhere among the arguments of a command, of an
option that is given several times the last one counts, and two hyphens end the options.
-/

namespace FlowLint

/-- What is asked for. -/
inductive Request where
  | validate (files : List Path) (json : Bool) (config : Option Path) (workers : Nat)
  | explain (file : Path)
  | classify (type : String)
deriving DecidableEq, Repr

/-- What is wrong with a command line. -/
inductive UsageFault where
  | noCommand
  | unknownCommand (name : String)
  | unknownOption (name : String)
  | missingValue (option : String)
  | unexpectedValue (option : String)
  | badWorkers (text : String)
  | missingArgument
  | unexpectedArgument (text : String)
deriving DecidableEq, Repr

def UsageFault.message : UsageFault → String
  | .noCommand => "Missing command: validate, explain or classify."
  | .unknownCommand name => "No such command '" ++ name ++ "'."
  | .unknownOption name => "No such option: " ++ name
  | .missingValue option => "Option '" ++ option ++ "' requires an argument."
  | .unexpectedValue option => "Option '" ++ option ++ "' does not take a value."
  | .badWorkers text => "Invalid value for '--workers': " ++ text
  | .missingArgument => "Missing argument."
  | .unexpectedArgument text => "Got unexpected extra argument (" ++ text ++ ")"

namespace Request

/-- The options of a command as far as they have been read. -/
structure Options where
  json : Bool := false
  config : Option String := none
  workers : Option String := none
  arguments : List String := []

/-- The options that take a value. -/
inductive ValueOption where
  | config
  | workers
deriving DecidableEq, Repr

/-- What the options of a command line may be: those of the command `validate`, or none. -/
inductive OptionSet where
  | validation
  | empty
deriving DecidableEq, Repr

/-- The option of a name, if it is one that takes a value. -/
def ValueOption.ofName? (name : String) : Option ValueOption :=
  if name = "--config" then some .config else if name = "--workers" then some .workers else none

/-- Gives an option a value, in place of the one before. -/
def Options.give (options : Options) (option : ValueOption) (value : String) : Options :=
  match option with
  | .config => { options with config := some value }
  | .workers => { options with workers := some value }

def Options.argue (options : Options) (argument : String) : Options :=
  { options with arguments := options.arguments ++ [argument] }

/-- The name of an option and the value that is given with it after an equals sign. -/
def splitOption (argument : String) : String × Option String :=
  let (name, value) := Text.splitFirst '=' argument.toList
  (String.ofList name, value.map String.ofList)

/-- An argument that is an option: a hyphen and more. -/
def isOption (argument : String) : Bool :=
  match argument.toList with
  | '-' :: _ :: _ => true
  | _ => false

def areKnownLetters (set : OptionSet) (argument : String) : Bool :=
  match argument.toList with
  | '-' :: letters => set == .validation && letters.all (· == 'v')
  | _ => false

/-- Takes up the arguments of a command one by one. -/
def read (set : OptionSet) (options : Options) : List String → Except UsageFault Options
  | [] => .ok options
  | argument :: rest =>
    if argument = "--" then .ok { options with arguments := options.arguments ++ rest }
    else if !isOption argument then read set (options.argue argument) rest
    else
      let (name, given) := splitOption argument
      if set != .validation then .error (.unknownOption name)
      else
        match ValueOption.ofName? name, given with
        | some option, some value => read set (options.give option value) rest
        | some option, none =>
          match rest with
          | value :: rest => read set (options.give option value) rest
          | [] => .error (.missingValue name)
        | none, _ =>
          if name = "--json" ∨ name = "--verbose" then
            if given.isSome then .error (.unexpectedValue name)
            else read set { options with json := options.json || name = "--json" } rest
          else if areKnownLetters set argument then read set options rest
          else .error (.unknownOption name)

/-- The count of workers, which is at least one; one when none is given. -/
def workersOf (given : Option String) : Except UsageFault Nat :=
  match given with
  | none => .ok 1
  | some text =>
    match Numeral.integer 10 text.toList with
    | .ok n => if 1 ≤ n then .ok n.toNat else .error (.badWorkers text)
    | .error _ => .error (.badWorkers text)

def single (arguments : List String) : Except UsageFault String :=
  match arguments with
  | [] => .error .missingArgument
  | [argument] => .ok argument
  | _ :: extra :: _ => .error (.unexpectedArgument extra)

def validation (rest : List String) : Except UsageFault Request := do
  let options ← read .validation {} rest
  let workers ← workersOf options.workers
  if options.arguments.isEmpty then throw .missingArgument
  return .validate (options.arguments.map Path.ofText) options.json
    (options.config.map Path.ofText) workers

def ofArguments (arguments : List String) : Except UsageFault Request :=
  match arguments with
  | [] => .error .noCommand
  | name :: rest =>
    if name = "validate" then validation rest
    else if name = "explain" then do
      let options ← read .empty {} rest
      return .explain (Path.ofText (← single options.arguments))
    else if name = "classify" then do
      let options ← read .empty {} rest
      return .classify (← single options.arguments)
    else if isOption name then .error (.unknownOption name)
    else .error (.unknownCommand name)

def paths : Request → List Path
  | .validate files _ config _ => config.toList ++ files
  | .explain file => [file]
  | .classify _ => []

end Request

end FlowLint
