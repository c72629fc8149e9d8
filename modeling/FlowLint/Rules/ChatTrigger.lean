import FlowLint.Finding
import FlowLint.Rules.Context

/-!
# Checks of chat triggers

A chat trigger hands messages to the first target of its main port. In streaming mode that has to be
an agent, whose answer goes straight back and not on to other nodes.
-/

namespace FlowLint.Rules

/-- The mode in which an agent's answer is streamed. -/
def streamingMode : String := "streaming"

/-- The mode in which the last node's output is the answer; it is the default. -/
def lastNodeMode : String := "lastNode"

def responseMode (node : Node) : String :=
  (Param.text? (node.parameters.option? "responseMode")).getD lastNodeMode

/-- What is wrong between a chat trigger and its first target. -/
def targetFindings (ctx : Context) (mode : String) (target : Node) : List Finding :=
  if mode = streamingMode then
    if !target.isAgent then [.error (.streamingWrongTarget target.name target.type)]
    else if !(ctx.graph.mainTargets target.name).isEmpty then
      [.error (.streamingAgentHasOutput target.name)]
    else []
  else if mode = lastNodeMode ∧ target.isAgent = true then [.info .streamingRecommended]
  else []

/-- The findings about a chat trigger. A target that is no node is left to other checks. -/
def chatTriggerFindings (ctx : Context) (node : Node) : List Finding :=
  match ctx.graph.mainTargets node.name with
  | [] => [.error .missingConnections]
  | first :: _ =>
    match ctx.graph.node? first.node with
    | none => []
    | some target => targetFindings ctx (responseMode node) target

end FlowLint.Rules
