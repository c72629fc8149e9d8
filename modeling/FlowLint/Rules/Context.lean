import FlowLint.Graph.ReverseIndex
import FlowLint.NodeType
import FlowLint.Settings.Basic

/-!
# What a check can look at

A check of a node sees the whole graph, the reverse index of the graph and the settings.
-/

namespace FlowLint

/-- The surroundings of a node that is checked. -/
structure Context where
  graph : Graph
  index : ReverseIndex
  settings : Settings

def Context.of (graph : Graph) (settings : Settings) : Context :=
  ⟨graph, ReverseIndex.build graph, settings⟩

def Node.category (node : Node) : Category :=
  NodeType.classify node.type

def Node.isAgent (node : Node) : Bool :=
  node.category == .agent

def Node.isChatTrigger (node : Node) : Bool :=
  node.category == .chatTrigger

end FlowLint
