import FlowLint.Json.Reader
import FlowLint.NodeType
import FlowLint.Rules.HttpRequest

/-!
# Checks of tools

Every kind of tool has its own check. A tool that is described by hand is checked for its
description first; the calculator and the thinking tool describe themselves and need nothing.
-/

namespace FlowLint

/-- What the nodes of a kind are called in messages. -/
def ToolKind.label : ToolKind → String
  | .httpRequest => "HTTP Request Tool"
  | .code => "Code Tool"
  | .vectorStore => "Vector Store Tool"
  | .workflow => "Workflow Tool"
  | .agent => "AI Agent Tool"
  | .mcpClient => "MCP Client Tool"
  | .calculator => "Calculator Tool"
  | .think => "Think Tool"
  | .serpApi => "SerpApi Tool"
  | .wikipedia => "Wikipedia Tool"
  | .searXng => "SearXNG Tool"
  | .wolframAlpha => "WolframAlpha Tool"

namespace Rules

/-- A parameter that has to be there. -/
def requiredFindings (node : Node) (key : String) (finding : Finding) : List Finding :=
  if Param.isBlank (node.parameters.param? key) then [finding] else []

/-- What is wrong with a written schema, which is a JSON object. -/
def schemaTextFindings (text : List Char) : Except CheckFault (List Finding) :=
  match Json.isObject text with
  | .ok isObject => .ok (if isObject then [] else [.error .invalidInputSchema])
  | .error collection => .error (.schema collection)

/-- An input schema is there when it is asked for, and one that is written as a text is looked into.
-/
def schemaFindings (node : Node) : Except CheckFault (List Finding) :=
  let schema := node.parameters.param? "inputSchema"
  let specified := Param.isTrue (node.parameters.param? "specifyInputSchema")
  let text := ((Param.text? schema).getD "").toList
  if specified && Param.isBlank schema then .ok [.error .missingInputSchema]
  else if !Text.allBlank text then schemaTextFindings text
  else .ok (if !specified && Param.isBlank schema then [.warning .noInputSchema] else [])

/-- The count of results is a number of at least one, and large ones are doubtful. A nan is neither
below nor above a bound. -/
def topKFindings (node : Node) (settings : Settings) : List Finding :=
  let limit := settings.maxTopKWarning.value
  match node.parameters.param? "topK" with
  | none => []
  | some value =>
    match value.number? with
    | none => [.error (.invalidTopK value)]
    | some n =>
      if n.ltInt 1 then [.error (.invalidTopK value)]
      else if n.gtInt limit then [.warning (.topKHigh n limit)]
      else []

/-- One of two parameters gives the server. -/
def serverFindings (node : Node) : List Finding :=
  if Param.isBlank (node.parameters.param? "serverUrl")
      && Param.isBlank (node.parameters.param? "sseEndpoint") then
    [.error .missingServerUrl]
  else []

/-- One of the credentials has to be there. -/
def credentialFindings (node : Node) (keys : List String) (use : CredentialUse) : List Finding :=
  if keys.all fun key => Param.isBlank (node.credentials.param? key) then
    [.error (.missingCredentials use)]
  else []

/-- A letter from a to z. -/
def isSmallLetter (c : Char) : Bool :=
  'a' ≤ c && c ≤ 'z'

/-- A later part of a language code: two to eight small letters or digits. -/
def isSubtag (cs : List Char) : Bool :=
  2 ≤ cs.length && cs.length ≤ 8 && cs.all fun c => isSmallLetter c || isDigit c

/-- The first part of a language code: two or three small letters. -/
def isPrimaryTag (cs : List Char) : Bool :=
  2 ≤ cs.length && cs.length ≤ 3 && cs.all isSmallLetter

/-- A language code: parts between hyphens, or the word simple. -/
def isLanguageTag (cs : List Char) : Bool :=
  cs == "simple".toList
    || match Text.splitAll '-' cs with
      | first :: parts => isPrimaryTag first && parts.all isSubtag
      | [] => false

/-- A language code, perhaps with one line end behind it. -/
def isLanguageCode (cs : List Char) : Bool :=
  isLanguageTag cs || (cs.getLast? == some '\n' && isLanguageTag cs.dropLast)

/-- A language that is given is a known kind of language code. -/
def languageFindings (node : Node) : List Finding :=
  match node.parameters.param? "language" with
  | none => []
  | some value =>
    if Param.isBlank (some value) then []
    else
      match value.text? with
      | some s => if isLanguageCode s.toList then [] else [.error (.invalidLanguageCode value)]
      | none => [.error (.invalidLanguageCode value)]

def codeFindings (node : Node) (settings : Settings) : Except CheckFault (List Finding) := do
  let described ← worded (descriptionFindings node settings)
  let inSchema ← schemaFindings node
  return described ++ requiredFindings node "jsCode" (.error .missingCode) ++ inSchema

def toolKindFindings (kind : ToolKind) (node : Node) (settings : Settings) :
    Except CheckFault (List Finding) :=
  let described := descriptionFindings node settings
  match kind with
  | .httpRequest => httpRequestFindings node settings
  | .code => codeFindings node settings
  | .vectorStore => .ok (described ++ topKFindings node settings)
  | .workflow => .ok (described ++ requiredFindings node "workflowId" (.error .missingWorkflowId))
  | .agent => .ok (described ++ iterationFindings node settings)
  | .mcpClient => .ok (described ++ serverFindings node)
  | .calculator | .think => .ok []
  | .serpApi => .ok (described ++ credentialFindings node ["serpApi", "serpApiApi"] .search)
  | .wikipedia => .ok (described ++ languageFindings node)
  | .searXng => .ok (described ++ requiredFindings node "baseUrl" (.error .missingBaseUrl))
  | .wolframAlpha =>
    .ok (described ++ credentialFindings node ["wolframAlpha", "wolframAlphaApi"] .computation)

end Rules

end FlowLint
