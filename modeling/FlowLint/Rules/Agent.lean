import FlowLint.Rules.ChatTrigger
import FlowLint.Rules.Parameters

/-!
# Checks of agents

Every check stands on its own and all that apply are reported, in this order: language models,
fallback, output parser, prompt, system message, streaming, memory, tools, iterations.
-/

namespace FlowLint.Rules

/-- How many edges a port of capabilities has into a node. -/
def wired (ctx : Context) (node : Node) (port : Port) : Nat :=
  ctx.index.countInbound node.name port

/-- An agent needs at least one language model, and not more than the limit. -/
def modelFindings (ctx : Context) (node : Node) : List Finding :=
  let models := wired ctx node .languageModel
  let limit := ctx.settings.maxLanguageModels.value
  if models = 0 then [.error .agentWithoutModel]
  else if limit < models then [.error (.tooManyModels models limit)]
  else []

def needsFallback (node : Node) : Bool :=
  Param.isTrue (node.parameters.param? "needsFallback")

/-- A second model is there for the fallback and only for it. -/
def fallbackFindings (ctx : Context) (node : Node) : List Finding :=
  let models := wired ctx node .languageModel
  let unused := models = 2 ∧ 2 ≤ ctx.settings.maxLanguageModels.value ∧ needsFallback node = false
  let missing := models = 1 ∧ needsFallback node = true
  (if unused then [.warning .fallbackNotEnabled] else [])
    ++ if missing then [.error .fallbackMissingSecondModel] else []

def asksForParser (node : Node) : Bool :=
  Param.isTrue (node.parameters.param? "hasOutputParser")

/-- An output parser that is asked for is there, and there is one at most. -/
def parserFindings (ctx : Context) (node : Node) : List Finding :=
  let parsers := wired ctx node .outputParser
  (if asksForParser node = true ∧ parsers = 0 then [.error .missingOutputParser] else [])
    ++ if 1 < parsers then [.error (.multipleOutputParsers parsers)] else []

/-- An agent has a system message of some length. -/
def systemMessageFindings (ctx : Context) (node : Node) : List Finding :=
  let least := ctx.settings.minSystemMessageLength.value
  match node.parameters.option? "systemMessage" with
  | none => [.info .missingSystemMessage]
  | some message =>
    if (Param.trimmedText (some message)).length < least then [.info (.systemMessageTooShort least)]
    else []

/-- A node that is a chat trigger at work in streaming mode. -/
def isStreamingSource (node : Node) : Bool :=
  !node.disabled && node.isChatTrigger && responseMode node == streamingMode

/-- A chat trigger in streaming mode has an edge to the node on its main port. -/
def isStreamingTarget (ctx : Context) (node : Node) : Bool :=
  (ctx.index.inbound node.name Port.main.name).any fun edge =>
    (ctx.graph.node? edge.source).any isStreamingSource

/-- A streamed answer ends at the agent. -/
def streamingFindings (ctx : Context) (node : Node) : List Finding :=
  if isStreamingTarget ctx node && !(ctx.graph.mainTargets node.name).isEmpty then
    [.error .streamingWithMainOutput]
  else []

/-- An agent has one memory at most. -/
def memoryFindings (ctx : Context) (node : Node) : List Finding :=
  let memories := wired ctx node .memory
  if 1 < memories then [.error (.multipleMemories memories)] else []

/-- An agent without tools can only write texts. -/
def toolFindings (ctx : Context) (node : Node) : List Finding :=
  if wired ctx node .tool = 0 then [.info .noToolsConnected] else []

def agentFindings (ctx : Context) (node : Node) : List Finding :=
  modelFindings ctx node
    ++ fallbackFindings ctx node
    ++ parserFindings ctx node
    ++ promptFindings node
    ++ systemMessageFindings ctx node
    ++ streamingFindings ctx node
    ++ memoryFindings ctx node
    ++ toolFindings ctx node
    ++ iterationFindings node ctx.settings

end FlowLint.Rules
