import FlowLint.Graph.Basic
import FlowLint.Value.Written

/-!
# Findings

What can be wrong with a node, with the facts that this rests on. A finding is an issue with the
severity that the check gives to it where it is found (`Finding.error`, `Finding.warning`,
`Finding.info`). A diagnostic is a finding together with the node that it is about.
-/

namespace FlowLint

/-- How serious a finding is. -/
inductive Severity where
  | error
  | warning
  | info
deriving DecidableEq, Repr

namespace Severity

/-- The severities, the most serious first. -/
def all : List Severity := [.error, .warning, .info]

def name : Severity → String
  | .error => "error"
  | .warning => "warning"
  | .info => "info"

end Severity

/-- The codes of findings. -/
inductive Code where
  | missingLanguageModel
  | tooManyLanguageModels
  | multipleLanguageModels
  | fallbackNotEnabled
  | fallbackMissingSecondModel
  | missingOutputParser
  | multipleOutputParsers
  | missingPromptText
  | missingSystemMessage
  | systemMessageTooShort
  | multipleMemoryConnections
  | noToolsConnected
  | invalidMaxIterationsType
  | maxIterationsTooLow
  | maxIterationsHigh
  | streamingWithMainOutput
  | missingConnections
  | streamingWrongTarget
  | streamingAgentHasOutput
  | streamingRecommended
  | missingToolDescription
  | toolDescriptionTooShort
  | missingUrl
  | invalidUrlProtocol
  | invalidUrlFormat
  | missingPlaceholderDefinitions
  | undefinedPlaceholder
  | unusedPlaceholder
  | missingCredentials
  | invalidHttpMethod
  | missingRequestBody
  | missingCode
  | missingInputSchema
  | invalidInputSchema
  | noInputSchema
  | invalidTopK
  | topKHigh
  | missingWorkflowId
  | missingServerUrl
  | invalidLanguageCode
  | missingBaseUrl
deriving DecidableEq, Repr

namespace Code

/-- The codes, by the subject that they are about. -/
def all : List Code :=
  [.missingLanguageModel, .tooManyLanguageModels, .multipleLanguageModels, .fallbackNotEnabled,
    .fallbackMissingSecondModel, .missingOutputParser, .multipleOutputParsers, .missingPromptText,
    .missingSystemMessage, .systemMessageTooShort, .multipleMemoryConnections, .noToolsConnected,
    .invalidMaxIterationsType, .maxIterationsTooLow, .maxIterationsHigh, .streamingWithMainOutput,
    .missingConnections, .streamingWrongTarget, .streamingAgentHasOutput, .streamingRecommended,
    .missingToolDescription, .toolDescriptionTooShort, .missingUrl, .invalidUrlProtocol,
    .invalidUrlFormat, .missingPlaceholderDefinitions, .undefinedPlaceholder, .unusedPlaceholder,
    .missingCredentials, .invalidHttpMethod, .missingRequestBody, .missingCode, .missingInputSchema,
    .invalidInputSchema, .noInputSchema, .invalidTopK, .topKHigh, .missingWorkflowId,
    .missingServerUrl, .invalidLanguageCode, .missingBaseUrl]

theorem mem_all (code : Code) : code ∈ all := by
  cases code <;> decide

def name : Code → String
  | .missingLanguageModel => "MISSING_LANGUAGE_MODEL"
  | .tooManyLanguageModels => "TOO_MANY_LANGUAGE_MODELS"
  | .multipleLanguageModels => "MULTIPLE_LANGUAGE_MODELS"
  | .fallbackNotEnabled => "FALLBACK_NOT_ENABLED"
  | .fallbackMissingSecondModel => "FALLBACK_MISSING_SECOND_MODEL"
  | .missingOutputParser => "MISSING_OUTPUT_PARSER"
  | .multipleOutputParsers => "MULTIPLE_OUTPUT_PARSERS"
  | .missingPromptText => "MISSING_PROMPT_TEXT"
  | .missingSystemMessage => "MISSING_SYSTEM_MESSAGE"
  | .systemMessageTooShort => "SYSTEM_MESSAGE_TOO_SHORT"
  | .multipleMemoryConnections => "MULTIPLE_MEMORY_CONNECTIONS"
  | .noToolsConnected => "NO_TOOLS_CONNECTED"
  | .invalidMaxIterationsType => "INVALID_MAX_ITERATIONS_TYPE"
  | .maxIterationsTooLow => "MAX_ITERATIONS_TOO_LOW"
  | .maxIterationsHigh => "MAX_ITERATIONS_HIGH"
  | .streamingWithMainOutput => "STREAMING_WITH_MAIN_OUTPUT"
  | .missingConnections => "MISSING_CONNECTIONS"
  | .streamingWrongTarget => "STREAMING_WRONG_TARGET"
  | .streamingAgentHasOutput => "STREAMING_AGENT_HAS_OUTPUT"
  | .streamingRecommended => "STREAMING_RECOMMENDED"
  | .missingToolDescription => "MISSING_TOOL_DESCRIPTION"
  | .toolDescriptionTooShort => "TOOL_DESCRIPTION_TOO_SHORT"
  | .missingUrl => "MISSING_URL"
  | .invalidUrlProtocol => "INVALID_URL_PROTOCOL"
  | .invalidUrlFormat => "INVALID_URL_FORMAT"
  | .missingPlaceholderDefinitions => "MISSING_PLACEHOLDER_DEFINITIONS"
  | .undefinedPlaceholder => "UNDEFINED_PLACEHOLDER"
  | .unusedPlaceholder => "UNUSED_PLACEHOLDER"
  | .missingCredentials => "MISSING_CREDENTIALS"
  | .invalidHttpMethod => "INVALID_HTTP_METHOD"
  | .missingRequestBody => "MISSING_REQUEST_BODY"
  | .missingCode => "MISSING_CODE"
  | .missingInputSchema => "MISSING_INPUT_SCHEMA"
  | .invalidInputSchema => "INVALID_INPUT_SCHEMA"
  | .noInputSchema => "NO_INPUT_SCHEMA"
  | .invalidTopK => "INVALID_TOPK"
  | .topKHigh => "TOPK_HIGH"
  | .missingWorkflowId => "MISSING_WORKFLOW_ID"
  | .missingServerUrl => "MISSING_SERVER_URL"
  | .invalidLanguageCode => "INVALID_LANGUAGE_CODE"
  | .missingBaseUrl => "MISSING_BASE_URL"

end Code

/-- The tools that need credentials to work. -/
inductive CredentialUse where
  | request
  | search
  | computation
deriving DecidableEq, Repr

/-- What is wrong with a node. -/
inductive Issue where
  | agentWithoutModel
  | chainWithoutModel
  | tooManyModels (count limit : Nat)
  | multipleModels (count : Nat)
  | fallbackNotEnabled
  | fallbackMissingSecondModel
  | missingOutputParser
  | multipleOutputParsers (count : Nat)
  | missingPromptText
  | missingSystemMessage
  | systemMessageTooShort (least : Nat)
  | multipleMemories (count : Nat)
  | noToolsConnected
  | iterationsNotNumeric (value : Value)
  | iterationsTooLow (value : Number)
  | iterationsHigh (value : Number) (limit : Nat)
  | streamingWithMainOutput
  | missingConnections
  | streamingWrongTarget (target type : String)
  | streamingAgentHasOutput (target : String)
  | streamingRecommended
  | missingToolDescription
  | toolDescriptionTooShort (least : Nat)
  | missingUrl
  | invalidUrlProtocol (scheme : String)
  | invalidUrlFormat (url : String)
  | missingPlaceholderDefinitions
  | undefinedPlaceholder (name : String)
  | unusedPlaceholder (name : String)
  | missingCredentials (use : CredentialUse)
  | invalidHttpMethod (method : String)
  | missingRequestBody (method : String)
  | missingCode
  | missingInputSchema
  | invalidInputSchema
  | noInputSchema
  | invalidTopK (value : Value)
  | topKHigh (value : Number) (limit : Nat)
  | missingWorkflowId
  | missingServerUrl
  | invalidLanguageCode (value : Value)
  | missingBaseUrl
deriving Repr

def httpMethods : List String :=
  ["GET", "POST", "PUT", "DELETE", "PATCH", "HEAD", "OPTIONS"]

namespace Issue

/-- The code of an issue. -/
def code : Issue → Code
  | .agentWithoutModel | .chainWithoutModel => .missingLanguageModel
  | .tooManyModels .. => .tooManyLanguageModels
  | .multipleModels _ => .multipleLanguageModels
  | .fallbackNotEnabled => .fallbackNotEnabled
  | .fallbackMissingSecondModel => .fallbackMissingSecondModel
  | .missingOutputParser => .missingOutputParser
  | .multipleOutputParsers _ => .multipleOutputParsers
  | .missingPromptText => .missingPromptText
  | .missingSystemMessage => .missingSystemMessage
  | .systemMessageTooShort _ => .systemMessageTooShort
  | .multipleMemories _ => .multipleMemoryConnections
  | .noToolsConnected => .noToolsConnected
  | .iterationsNotNumeric _ => .invalidMaxIterationsType
  | .iterationsTooLow _ => .maxIterationsTooLow
  | .iterationsHigh .. => .maxIterationsHigh
  | .streamingWithMainOutput => .streamingWithMainOutput
  | .missingConnections => .missingConnections
  | .streamingWrongTarget .. => .streamingWrongTarget
  | .streamingAgentHasOutput _ => .streamingAgentHasOutput
  | .streamingRecommended => .streamingRecommended
  | .missingToolDescription => .missingToolDescription
  | .toolDescriptionTooShort _ => .toolDescriptionTooShort
  | .missingUrl => .missingUrl
  | .invalidUrlProtocol _ => .invalidUrlProtocol
  | .invalidUrlFormat _ => .invalidUrlFormat
  | .missingPlaceholderDefinitions => .missingPlaceholderDefinitions
  | .undefinedPlaceholder _ => .undefinedPlaceholder
  | .unusedPlaceholder _ => .unusedPlaceholder
  | .missingCredentials _ => .missingCredentials
  | .invalidHttpMethod _ => .invalidHttpMethod
  | .missingRequestBody _ => .missingRequestBody
  | .missingCode => .missingCode
  | .missingInputSchema => .missingInputSchema
  | .invalidInputSchema => .invalidInputSchema
  | .noInputSchema => .noInputSchema
  | .invalidTopK _ => .invalidTopK
  | .topKHigh .. => .topKHigh
  | .missingWorkflowId => .missingWorkflowId
  | .missingServerUrl => .missingServerUrl
  | .invalidLanguageCode _ => .invalidLanguageCode
  | .missingBaseUrl => .missingBaseUrl

/-- What an issue says of its node, in words that follow the node's name. -/
def statement : Issue → String
  | .agentWithoutModel =>
    "requires an ai_languageModel connection. Connect a chat model node (e.g. OpenAI Chat Model)."
  | .chainWithoutModel => "requires an ai_languageModel connection."
  | .tooManyModels count limit =>
    "has " ++ numberText count ++ " ai_languageModel connections. Maximum is " ++ numberText limit
      ++ " (primary plus fallback)."
  | .multipleModels count =>
    "has " ++ numberText count ++ " ai_languageModel connections. "
      ++ "Only 1 is supported; use an AI Agent for fallback models."
  | .fallbackNotEnabled =>
    "has 2 language models but needsFallback is not enabled. "
      ++ "Set needsFallback=true or remove the second model."
  | .fallbackMissingSecondModel =>
    "has needsFallback=true but only 1 language model. "
      ++ "Connect a second model for fallback or disable needsFallback."
  | .missingOutputParser => "has hasOutputParser=true but no ai_outputParser connection."
  | .multipleOutputParsers count =>
    "has " ++ numberText count ++ " output parsers. Only 1 is allowed."
  | .missingPromptText => "has promptType=\"define\" but the text field is empty."
  | .missingSystemMessage =>
    "has no systemMessage. Add one to define the agent's role and constraints."
  | .systemMessageTooShort least =>
    "systemMessage is very short (minimum " ++ numberText least ++ " characters recommended)."
  | .multipleMemories count =>
    "has " ++ numberText count ++ " ai_memory connections. Only 1 is allowed."
  | .noToolsConnected =>
    "has no ai_tool connections. Connect tools if the agent should act beyond text generation."
  | .iterationsNotNumeric value => "has a non-numeric maxIterations (" ++ value.quoted ++ ")."
  | .iterationsTooLow value =>
    "has maxIterations=" ++ value.text ++ ". Must be at least 1."
  | .iterationsHigh value limit =>
    "has maxIterations=" ++ value.text ++ ". Values above " ++ numberText limit
      ++ " usually indicate a misconfiguration."
  | .streamingWithMainOutput =>
    "receives a streaming Chat Trigger but has outgoing main connections. "
      ++ "Streaming responses end at the agent; remove the outgoing connections."
  | .missingConnections => "has no outgoing connections. Connect it to an AI Agent."
  | .streamingWrongTarget target type =>
    "uses streaming mode but connects to \"" ++ target ++ "\" (" ++ type
      ++ "). Streaming only works with an AI Agent."
  | .streamingAgentHasOutput target =>
    "streams to AI Agent \"" ++ target ++ "\", which has outgoing main connections. "
      ++ "The streamed response never reaches them."
  | .streamingRecommended =>
    "uses responseMode=\"lastNode\" with an AI Agent. "
      ++ "Consider responseMode=\"streaming\" for a more interactive chat."
  | .missingToolDescription =>
    "has no toolDescription. Describe when the model should use this tool."
  | .toolDescriptionTooShort least =>
    "toolDescription is too short (minimum " ++ numberText least ++ " characters)."
  | .missingUrl => "has no URL. Add the API endpoint URL."
  | .invalidUrlProtocol scheme =>
    "uses unsupported URL protocol \"" ++ scheme ++ ":\". Use http:// or https://."
  | .invalidUrlFormat url => "has a URL that does not look valid: \"" ++ url ++ "\"."
  | .missingPlaceholderDefinitions => "uses placeholders but has no placeholderDefinitions."
  | .undefinedPlaceholder name =>
    "uses placeholder \"" ++ name ++ "\" that is not defined in placeholderDefinitions."
  | .unusedPlaceholder name => "defines placeholder \"" ++ name ++ "\" but never uses it."
  | .missingCredentials .request => "requires credentials but none are configured."
  | .missingCredentials .search => "requires SerpApi credentials. Configure your API key."
  | .missingCredentials .computation =>
    "requires Wolfram|Alpha API credentials. Configure your App ID."
  | .invalidHttpMethod method =>
    "has invalid HTTP method \"" ++ method ++ "\". Use one of: " ++ ", ".intercalate httpMethods
      ++ "."
  | .missingRequestBody method => "uses " ++ method ++ " but has no body."
  | .missingCode => "code is empty. Add the JavaScript code to run."
  | .missingInputSchema => "has specifyInputSchema=true but no inputSchema."
  | .invalidInputSchema => "inputSchema is not a JSON object."
  | .noInputSchema =>
    "has no input schema. Consider adding one to validate the model's inputs."
  | .invalidTopK value => "has invalid topK (" ++ value.quoted ++ "). Must be a positive number."
  | .topKHigh value limit =>
    "has topK=" ++ value.text ++ ". Values above " ++ numberText limit
      ++ " may overwhelm the model's context."
  | .missingWorkflowId => "has no workflowId. Select a workflow to execute."
  | .missingServerUrl => "has no serverUrl. Configure the MCP server URL."
  | .invalidLanguageCode value =>
    "has unrecognized language code " ++ value.quoted
      ++ ". Use a Wikipedia language code such as \"en\", \"es\" or \"zh-yue\"."
  | .missingBaseUrl => "has no baseUrl. Configure your SearXNG instance URL."

/-- The first thing that keeps the statement of an issue from being worded, in one of the values and
limits that it shows. -/
def fault? : Issue → Option ShowFault
  | .tooManyModels _ limit | .systemMessageTooShort limit | .toolDescriptionTooShort limit =>
    numeralFault? limit
  | .iterationsNotNumeric value | .invalidTopK value | .invalidLanguageCode value =>
    value.showFault?
  | .iterationsTooLow value => value.showFault?
  | .iterationsHigh value limit | .topKHigh value limit =>
    value.showFault?.or (numeralFault? limit)
  | _ => none

end Issue

/-- What a check has found: an issue, and how serious it is. -/
structure Finding where
  severity : Severity
  issue : Issue
deriving Repr

namespace Finding

/-- An issue that is found as an error. -/
@[match_pattern] abbrev error (issue : Issue) : Finding := ⟨.error, issue⟩

@[match_pattern] abbrev warning (issue : Issue) : Finding := ⟨.warning, issue⟩

@[match_pattern] abbrev info (issue : Issue) : Finding := ⟨.info, issue⟩

def code (finding : Finding) : Code :=
  finding.issue.code

def statement (finding : Finding) : String :=
  finding.issue.statement

def fault? (finding : Finding) : Option ShowFault :=
  finding.issue.fault?

/-- What the statement of a finding shows has a text. -/
def isWritable (finding : Finding) : Bool :=
  finding.fault?.isNone

end Finding

/-- A finding about a node. The label says what kind of node it is. -/
structure Diagnostic where
  finding : Finding
  label : String
  nodeId : Option String
  nodeName : String
deriving Repr

namespace Diagnostic

def severity (d : Diagnostic) : Severity :=
  d.finding.severity

/-- The code of a diagnostic. -/
def code (d : Diagnostic) : Code :=
  d.finding.code

/-- The wording of a diagnostic: the label, the name in quotation marks, and the statement. -/
def message (d : Diagnostic) : String :=
  d.label ++ " \"" ++ d.nodeName ++ "\" " ++ d.finding.statement

def isError (d : Diagnostic) : Bool :=
  d.severity == .error

def isWarning (d : Diagnostic) : Bool :=
  d.severity == .warning

end Diagnostic

def Node.diagnose (node : Node) (label : String) (findings : List Finding) : List Diagnostic :=
  findings.map fun finding => ⟨finding, label, node.id, node.name⟩

end FlowLint
