import WorkflowLint.Graph.Reach
import WorkflowLint.Rule.Basic

/-!
Contract: rules on what happens after a failure.

Owns: the rule against hidden failures (R2), the rule that an error branch tells somebody before it
joins the main flow (R7), and the rule that nodes that can fail have an error branch (R12).
-/

set_option autoImplicit false

namespace WorkflowLint.Rules

/-! ## Hidden failures -/

def continuesOnFail (node : Node) : Bool :=
  node.flags.any fun flags => !flags.continueOnFail.isEmpty

def hiddenFailure (node : Node) : Remark where
  nodeId := node.id
  message :=
    "Node " ++ node.label ++
      " has continueOnFail enabled (disable it and route errors explicitly)"
  details := some <|
    "Open the node in n8n and disable \"Continue On Fail\" (Options > Continue On Fail). " ++
    "Route failures down an explicit error branch instead."

/-- R2: no node goes on silently after a failure. -/
def errorHandling : Rule :=
  .perNode "R2" "error_handling" none fun config _ node =>
    let forbidden := config.rules.errorHandling.any ErrorHandlingBlock.forbidContinueOnFail
    .ok (if forbidden && continuesOnFail node then [hiddenFailure node] else [])

/-! ## Error branches without an alert -/

/-- The name of the source of an edge: the label of its node, or the id itself. -/
def sourceLabel (graph : Graph) (edge : Edge) : String :=
  ((graph.node? edge.source).map Node.label).getD edge.source

/-- An error edge whose branch tells nobody. -/
def isSilent (graph : Graph) (edge : Edge) : Bool :=
  edge.isError && !graph.isHandled edge.target

def silentBranch (graph : Graph) (edge : Edge) : Remark where
  nodeId := edge.source
  message :=
    "Error path from node " ++ sourceLabel graph edge ++
      " has no log/alert before rejoining (add notification node)"
  details := some <|
    "Add a Slack/Email/Log node on the error branch before it rejoins the main flow " ++
    "so failures leave an audit trail."

/-- R7: an error branch tells somebody before it joins the main flow. -/
def alertLogEnforcement : Rule where
  id := "R7"
  key := "alert_log_enforcement"
  shape := "AlertLogRule"
  remarks := fun _ graph => .ok ((graph.edges.filter (isSilent graph)).map (silentBranch graph))

/-! ## Missing error branches -/

/-- The edge is followed on failure, or leads to an error handler. -/
def catchesFailure (graph : Graph) (edge : Edge) : Bool :=
  edge.isError ||
    (graph.node? edge.target).any fun target => isErrorHandler target.type target.name

/-- A node that can fail and has no way out of a failure. -/
def lacksErrorBranch (graph : Graph) (node : Node) : Bool :=
  isErrorProne node.type && !(graph.outgoing node.id).any (catchesFailure graph)

def missingErrorBranch (node : Node) : Remark where
  nodeId := node.id
  message := "Node " ++ node.label ++ " has no error branch (add a red connector to handler)"
  details := some <|
    "Add an error (red) branch to a Stop and Error or logging/alert node " ++
    "so failures do not disappear silently."

/-- R12: nodes that can fail have an error branch. -/
def unhandledErrorPath : Rule :=
  .perNode "R12" "unhandled_error_path" none fun _ graph node =>
    .ok (if lacksErrorBranch graph node then [missingErrorBranch node] else [])

end WorkflowLint.Rules
