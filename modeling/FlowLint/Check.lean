import FlowLint.Rules.Agent
import FlowLint.Rules.Chain
import FlowLint.Rules.Tool

/-!
# Checking graphs

The checks of a node are chosen by its category. A graph is checked node by node, in the order of
the nodes, and the first node that cannot be checked ends the run.
-/

namespace FlowLint.Check

/-- The diagnostics of findings about a node, when all of them can be worded. -/
def report (node : Node) (label : String) (findings : List Finding) :
    Except CheckFault (List Diagnostic) :=
  (Rules.worded findings).map (node.diagnose label)

def agent (ctx : Context) (node : Node) : Except CheckFault (List Diagnostic) :=
  report node "AI Agent" (Rules.agentFindings ctx node)

def chatTrigger (ctx : Context) (node : Node) : List Diagnostic :=
  node.diagnose "Chat Trigger" (Rules.chatTriggerFindings ctx node)

def basicChain (ctx : Context) (node : Node) : List Diagnostic :=
  node.diagnose "Basic LLM Chain" (Rules.chainFindings ctx node)

def tool (ctx : Context) (kind : ToolKind) (node : Node) : Except CheckFault (List Diagnostic) := do
  report node kind.label (← Rules.toolKindFindings kind node ctx.settings)

/-- The diagnostics of a node by the kind of tool that it is. -/
def anyTool (ctx : Context) (node : Node) : Except CheckFault (List Diagnostic) :=
  match node.category with
  | .tool kind => tool ctx kind node
  | _ => .ok []

/-- The diagnostics of a node as one of a category. -/
def asCategory (ctx : Context) (category : Category) (node : Node) :
    Except CheckFault (List Diagnostic) :=
  match category with
  | .agent => agent ctx node
  | .chatTrigger => .ok (chatTrigger ctx node)
  | .basicChain => .ok (basicChain ctx node)
  | .tool kind => tool ctx kind node
  | .other => .ok []

/-- The diagnostics of a node; a disabled node has none. -/
def node (ctx : Context) (node : Node) : Except CheckFault (List Diagnostic) :=
  if node.disabled then .ok [] else asCategory ctx node.category node

/-- The diagnostics of all nodes, or the fault of the first node that has one. -/
def nodes (ctx : Context) : List Node → Except CheckFault (List Diagnostic)
  | [] => .ok []
  | first :: rest => do
    let found ← node ctx first
    return found ++ (← nodes ctx rest)

def graph (g : Graph) (settings : Settings) : Except CheckFault (List Diagnostic) :=
  nodes (Context.of g settings) g.nodes

end FlowLint.Check
