import FlowLint.Rules.Fault
import FlowLint.Rules.Parameters
import FlowLint.Text.Placeholder
import FlowLint.Text.UpperCase

/-!
# Checks of the HTTP request tool

The URL, the placeholders of URL, body and headers, the credentials, the method and the body of a
request.
-/

namespace FlowLint

namespace Rules

/-- The text opens an expression, whose value is not known here. -/
def opensExpression : List Char → Bool
  | '\x7b' :: '\x7b' :: _ => true
  | _ :: rest => opensExpression rest
  | [] => false

/-- What is wrong with the parts of a URL: it needs one of two schemes, and a network location. -/
def urlPartFindings (url : String) (parts : Url.Parts) : List Finding :=
  let known := parts.scheme = "http".toList ∨ parts.scheme = "https".toList
  if parts.scheme ≠ [] ∧ ¬known then [.error (.invalidUrlProtocol (String.ofList parts.scheme))]
  else if parts.scheme = [] ∨ parts.location = [] then [.warning (.invalidUrlFormat url)]
  else []

/-- What is wrong with the URL. Only texts without expressions are looked into. -/
def urlFindings (node : Node) : Except CheckFault (List Finding) :=
  let url := node.parameters.param? "url"
  if Param.isBlank url then .ok [.error .missingUrl]
  else
    match Param.text? url with
    | none => .ok []
    | some text =>
      if opensExpression text.toList then .ok []
      else
        match Url.split text.toList with
        | .ok parts => .ok (urlPartFindings text parts)
        | .error fault => .error (.url fault)

/-- The placeholders of an optional value, which only texts have. -/
def placeholdersOf (value : Option Value) : List String :=
  match Param.text? value with
  | some s => Text.placeholders s.toList
  | none => []

/-- The placeholders of the headers, looked for in their JSON text. -/
def headerPlaceholders (headers : Option Value) : Except CheckFault (List String) :=
  match headers with
  | none => .ok []
  | some value =>
    match Json.write value with
    | .ok text => .ok (Text.placeholders text)
    | .error fault => .error (.headers fault)

/-- The placeholders of URL, body and headers. -/
def usedPlaceholders (node : Node) : Except CheckFault (List String) := do
  let inHeaders ← headerPlaceholders (node.parameters.param? "headers")
  return placeholdersOf (node.parameters.param? "url")
    ++ placeholdersOf (node.parameters.param? "body") ++ inHeaders

/-- The name that an entry of the placeholder definitions gives. -/
def definedName? (entry : Value) : Option String := do
  let members ← entry.members?
  (← members.get? "name").text?

/-- The names of placeholder definitions, in their order; definitions of another shape have none. -/
def definedPlaceholders (definitions : Value) : List String :=
  let stated := (definitions.members?.bind (Members.get? · "values")).bind Value.items?
  (stated.getD []).filterMap definedName?

/-- The names each once, in the order of code points. -/
def sortedNames (names : List String) : List String :=
  names.eraseDups.mergeSort fun a b => decide (a ≤ b)

/-- Names that are used and not defined, and names that are defined and not used. -/
def definitionFindings (used defined : List String) : List Finding :=
  (sortedNames (used.filter (!defined.contains ·))).map (.error <| .undefinedPlaceholder ·)
    ++ (defined.eraseDups.filter (!used.contains ·)).map (.warning <| .unusedPlaceholder ·)

/-- What is wrong between the placeholders that are used and their definitions. Without placeholders
in use the definitions are not looked at. -/
def placeholderFindings (node : Node) (used : List String) : List Finding :=
  if used.isEmpty then []
  else
    match node.parameters.param? "placeholderDefinitions" with
    | none => [.warning .missingPlaceholderDefinitions]
    | some definitions => definitionFindings used (definedPlaceholders definitions)

/-- Predefined credentials have to be there. -/
def requestCredentialFindings (node : Node) : List Finding :=
  if Param.isText (node.parameters.param? "authentication") "predefinedCredentialType"
      && node.credentials.isEmpty then
    [.error (.missingCredentials .request)]
  else []

/-- The method in capitals; empty when no text is given. -/
def requestMethod (node : Node) : List Char :=
  match Param.text? (node.parameters.param? "method") with
  | some s => Text.upper s.toList
  | none => []

def bodyMethods : List (List Char) :=
  ["POST".toList, "PUT".toList, "PATCH".toList]

/-- A method is one of the known ones. -/
def methodFindings (method : List Char) : List Finding :=
  if method ≠ [] ∧ ¬(httpMethods.map String.toList).contains method then
    [.error (.invalidHttpMethod (String.ofList method))]
  else []

/-- Neither of the two parameters gives a body. -/
def lacksBody (node : Node) : Bool :=
  Param.isBlank (node.parameters.param? "body") && Param.isBlank (node.parameters.param? "jsonBody")

/-- A method with a body has one. -/
def bodyFindings (node : Node) (method : List Char) : List Finding :=
  if bodyMethods.contains method && lacksBody node then
    [.warning (.missingRequestBody (String.ofList method))]
  else []

def httpRequestFindings (node : Node) (settings : Settings) :
    Except CheckFault (List Finding) := do
  let described ← worded (descriptionFindings node settings)
  let inUrl ← urlFindings node
  let used ← usedPlaceholders node
  let method := requestMethod node
  return described
    ++ inUrl
    ++ placeholderFindings node used
    ++ requestCredentialFindings node
    ++ methodFindings method
    ++ bodyFindings node method

end Rules

end FlowLint
