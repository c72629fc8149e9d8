/-!
# Node types

A workflow node says what it does by its type, a package and a name with a point between them. The
packages of the platform are spelled in several ways; `normalize` brings them to one. The types
whose nodes are checked are sorted into categories by `classify`.
-/

namespace FlowLint

/-- The tools that an agent can be given. -/
inductive ToolKind where
  | httpRequest
  | code
  | vectorStore
  | workflow
  | agent
  | mcpClient
  | calculator
  | think
  | serpApi
  | wikipedia
  | searXng
  | wolframAlpha
deriving DecidableEq, Repr

/-- What a node is to the checks. -/
inductive Category where
  | agent
  | chatTrigger
  | basicChain
  | tool (kind : ToolKind)
  | other
deriving DecidableEq, Repr

/-- Who a node type comes from. -/
inductive Package where
  | base
  | langchain
  | community
  | unknown
deriving DecidableEq, Repr

namespace ToolKind

def all : List ToolKind :=
  [.httpRequest, .code, .vectorStore, .workflow, .agent, .mcpClient, .calculator, .think, .serpApi,
    .wikipedia, .searXng, .wolframAlpha]

theorem mem_all (kind : ToolKind) : kind ∈ all := by
  cases kind <;> decide

def typeName : ToolKind → String
  | .httpRequest => "nodes-langchain.toolHttpRequest"
  | .code => "nodes-langchain.toolCode"
  | .vectorStore => "nodes-langchain.toolVectorStore"
  | .workflow => "nodes-langchain.toolWorkflow"
  | .agent => "nodes-langchain.agentTool"
  | .mcpClient => "nodes-langchain.mcpClientTool"
  | .calculator => "nodes-langchain.toolCalculator"
  | .think => "nodes-langchain.toolThink"
  | .serpApi => "nodes-langchain.toolSerpApi"
  | .wikipedia => "nodes-langchain.toolWikipedia"
  | .searXng => "nodes-langchain.toolSearXng"
  | .wolframAlpha => "nodes-langchain.toolWolframAlpha"

def ofTypeName? (name : String) : Option ToolKind :=
  all.find? fun kind => kind.typeName == name

theorem ofTypeName?_typeName (kind : ToolKind) : ofTypeName? kind.typeName = some kind := by
  cases kind <;> decide

theorem typeName_of_ofTypeName? {name : String} {kind : ToolKind}
    (h : ofTypeName? name = some kind) : kind.typeName = name := by
  simpa using List.find?_some h

end ToolKind

/-- The name of a category; all tools share one. -/
def Category.name : Category → String
  | .agent => "agent"
  | .chatTrigger => "chatTrigger"
  | .basicChain => "basicChain"
  | .tool _ => "toolSubnode"
  | .other => "other"

def Package.name : Package → String
  | .base => "base"
  | .langchain => "langchain"
  | .community => "community"
  | .unknown => "unknown"

namespace NodeType

/-- The spellings of the platform's packages and the one that stands for them. -/
def spellings : List (String × String) :=
  [("n8n-nodes-base.", "nodes-base."),
    ("@n8n/n8n-nodes-langchain.", "nodes-langchain."),
    ("n8n-nodes-langchain.", "nodes-langchain.")]

/-- The type with its package in the standard spelling. -/
def normalize (type : String) : String :=
  let found := spellings.findSome? fun (long, short) =>
    (long.toList.isPrefixOf? type.toList).map fun name => String.ofList (short.toList ++ name)
  found.getD type

def agentType : String := "nodes-langchain.agent"

def chatTriggerType : String := "nodes-langchain.chatTrigger"

def basicChainType : String := "nodes-langchain.chainLlm"

/-- The category of the nodes of a type in the standard spelling. -/
def categoryOf (type : String) : Category :=
  if type = agentType then .agent
  else if type = chatTriggerType then .chatTrigger
  else if type = basicChainType then .basicChain
  else
    match ToolKind.ofTypeName? type with
    | some kind => .tool kind
    | none => .other

/-- The category of the nodes of a type in any spelling. -/
def classify (type : String) : Category :=
  categoryOf (normalize type)

/-- Where a type comes from: one of the two packages of the platform, another package, or unknown
when no package is given. -/
def package (type : String) : Package :=
  let cs := (normalize type).toList
  if "nodes-base.".toList.isPrefixOf cs then .base
  else if "nodes-langchain.".toList.isPrefixOf cs then .langchain
  else if cs.contains '.' then .community
  else .unknown

/-- The type without its package: what stands after the last point. -/
def shortName (type : String) : String :=
  String.ofList ((normalize type).toList.reverse.takeWhile (· != '.')).reverse

end NodeType

end FlowLint
