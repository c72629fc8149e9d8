import FlowLint.Check
import FlowLint.Json.Writer

/-!
# Reports

The outcome of checking a workflow. A workflow without any node of interest is valid and is not
checked; any other is valid when no diagnostic is an error.
-/

namespace FlowLint

/-- The outcome of checking a workflow. -/
structure Report where
  diagnostics : List Diagnostic
  /-- The workflow has a node of interest. -/
  checked : Bool
deriving Repr

namespace Report

def errors (report : Report) : List String :=
  (report.diagnostics.filter (·.isError)).map (·.message)

def warnings (report : Report) : List String :=
  (report.diagnostics.filter (·.isWarning)).map (·.message)

def valid (report : Report) : Bool :=
  report.errors.isEmpty

end Report

/-- The graph has a node of interest; disabled nodes count. -/
def Graph.isChecked (g : Graph) : Bool :=
  g.nodes.any fun node => node.category != .other

def Report.of (g : Graph) (settings : Settings) : Except CheckFault Report :=
  if g.isChecked then (Check.graph g settings).map fun diagnostics => ⟨diagnostics, true⟩
  else .ok ⟨[], false⟩

/-! ## As documents -/

/-- A diagnostic as a document value. -/
def Diagnostic.toValue (d : Diagnostic) : Value :=
  .map [(.text "severity", .text d.severity.name), (.text "code", .text d.code.name),
    (.text "message", .text d.message),
    (.text "node_id", (d.nodeId.map Value.text).getD .null),
    (.text "node_name", .text d.nodeName)]

/-- A report as a document value. -/
def Report.toValue (report : Report) : Value :=
  .map [(.text "valid", .bool report.valid),
    (.text "errors", .list (report.errors.map Value.text)),
    (.text "warnings", .list (report.warnings.map Value.text)),
    (.text "diagnostics", .list (report.diagnostics.map Diagnostic.toValue)),
    (.text "ai_checked", .bool report.checked)]

end FlowLint
