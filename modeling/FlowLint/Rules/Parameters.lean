import FlowLint.Finding
import FlowLint.Settings.Basic

/-!
# Checks that several kinds of nodes share

The prompt text, the limit of iterations and the description of a tool. Each looks at the parameters
of one node only.
-/

namespace FlowLint.Rules

/-- A prompt that is to be defined in the node needs a text. -/
def promptFindings (node : Node) : List Finding :=
  if Param.isText (node.parameters.param? "promptType") "define"
      && Param.isBlank (node.parameters.param? "text") then
    [.error .missingPromptText]
  else []

/-- A limit of iterations is a number of at least one, and large ones are doubtful. A nan is neither
below nor above a bound. -/
def iterationFindings (node : Node) (settings : Settings) : List Finding :=
  let limit := settings.maxIterationsWarning.value
  match node.parameters.param? "maxIterations" with
  | none => []
  | some value =>
    match value.number? with
    | none => [.error (.iterationsNotNumeric value)]
    | some n =>
      if n.ltInt 1 then [.error (.iterationsTooLow n)]
      else if n.gtInt limit then [.warning (.iterationsHigh n limit)]
      else []

/-- A description that is written by hand says something, and not too little. -/
def descriptionFindings (node : Node) (settings : Settings) : List Finding :=
  let least := settings.minToolDescriptionLength.value
  let description := node.parameters.param? "toolDescription"
  if !Param.isText (node.parameters.param? "descriptionType") "manual" then []
  else if Param.isBlank description then [.error .missingToolDescription]
  else if (Param.trimmedText description).length < least then
    [.warning (.toolDescriptionTooShort least)]
  else []

end FlowLint.Rules
