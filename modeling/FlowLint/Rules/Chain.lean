import FlowLint.Rules.Parameters
import FlowLint.Rules.Context

/-!
# Checks of basic chains

A basic chain has exactly one language model, and no fallback.
-/

namespace FlowLint.Rules

/-- A basic chain has one language model. -/
def chainModelFindings (ctx : Context) (node : Node) : List Finding :=
  let models := ctx.index.countInbound node.name .languageModel
  if models = 0 then [.error .chainWithoutModel]
  else if 1 < models then [.error (.multipleModels models)]
  else []

def chainFindings (ctx : Context) (node : Node) : List Finding :=
  chainModelFindings ctx node ++ promptFindings node

end FlowLint.Rules
