import WorkflowLint.Config.Text
import WorkflowLint.Graph.Reach
import WorkflowLint.Rule.Basic
import WorkflowLint.Value.Mention

/-!
Contract: rules on how nodes are connected.

Owns: the rule that changes of data are guarded against repetition (R3), the rule against dead ends
(R5), the rule that data reaches a consumer (R8), and the rule that a webhook is answered before heavy
work starts (R13).
-/

set_option autoImplicit false

namespace WorkflowLint.Rules

/-! ## Guards against repetition -/

/-- A node that leads to an id, or the node there itself, mentions one of the candidates. -/
def isGuarded (candidates : List String) (graph : Graph) (id : String) : Except RuleFault Bool :=
  let ancestors := graph.ancestors id
  graph.nodes.anyM fun node =>
    if ancestors.contains node.id then
      (node.paramsValue.mentions candidates).mapError .ofSearch
    else .ok false

def lacksGuard (candidates : List String) (graph : Graph) (node : Node) : Except RuleFault Bool :=
  if isMutation node.type then (! ·) <$> isGuarded candidates graph node.id else .ok false

def missingGuard (candidates : List String) (node : Node) : Remark where
  nodeId := node.id
  message :=
    "The mutation path ending at \"" ++ node.label ++
      "\" appears to be missing an idempotency guard."
  details := some <|
    "Ensure one of the upstream nodes or the mutation node itself uses an idempotency key, " ++
    "such as one of: " ++ ", ".intercalate candidates

def guardRemarks (candidates : List String) (graph : Graph) (node : Node) :
    Except RuleFault (List Remark) := do
  return if ← lacksGuard candidates graph node then [missingGuard candidates node] else []

/-- R3: in a graph with an ingress, changes of data are guarded against repetition. -/
def idempotency : Rule where
  id := "R3"
  key := "idempotency"
  shape := "IdempotencyRule"
  remarks := fun config graph =>
    let candidates := (config.rules.idempotency.map IdempotencyBlock.keyFieldCandidates).getD []
    if graph.nodes.any fun node => isIngress node.type then
      List.flatten <$> graph.nodes.mapM (guardRemarks candidates graph)
    else .ok []

/-! ## Dead ends -/

/-- Nothing follows a node that is no legitimate end. -/
def isDeadEnd (graph : Graph) (node : Node) : Bool :=
  (graph.outgoing node.id).isEmpty && !isTerminal node.type node.name

def deadEnd (node : Node) : Remark where
  nodeId := node.id
  message :=
    "Node " ++ node.label ++ " has no outgoing connections (either wire it up or remove it)"
  details := some <|
    "Either remove this node as dead code or connect it to the next/safe step " ++
    "so the workflow can continue."

/-- R5: a graph of several nodes has no dead ends. -/
def deadEnds : Rule where
  id := "R5"
  key := "dead_ends"
  shape := "DeadEndRule"
  remarks := fun _ graph =>
    if graph.nodes.length ≤ 1 then .ok []
    else .ok ((graph.nodes.filter (isDeadEnd graph)).map deadEnd)

/-! ## Unused data -/

/-- A consumer with another id is reached from an id. -/
def reachesConsumer (graph : Graph) (id : String) : Bool :=
  let descendants := graph.descendants id
  graph.nodes.any fun node =>
    node.id != id && descendants.contains node.id && isConsumer node.type

/-- A node in the middle of a flow whose data reaches no consumer. -/
def isUnused (graph : Graph) (node : Node) : Bool :=
  !isTerminal node.type node.name && !(graph.outgoing node.id).isEmpty &&
    !reachesConsumer graph node.id

def unused (node : Node) : Remark where
  nodeId := node.id
  message := "Node \"" ++ node.label ++ "\" produces data that never reaches any consumer"
  details := some <|
    "Wire this branch into a consumer (DB/API/response) or remove it, " ++
    "otherwise the data produced here is never used."

/-- R8: data reaches a consumer. -/
def unusedData : Rule where
  id := "R8"
  key := "unused_data"
  shape := "UnusedDataRule"
  remarks := fun _ graph => .ok ((graph.nodes.filter (isUnused graph)).map unused)

/-! ## Late answers -/

def heavyTypes (config : Config) : List String :=
  (config.rules.webhookAcknowledgment.bind WebhookBlock.heavyNodeTypes).getD Config.heavyNodeTypes

/-- A webhook trigger with heavy work and no answer directly after it. -/
def answersLate (heavy : List String) (graph : Graph) (node : Node) : Bool :=
  let next := graph.successors node.id
  isWebhookTrigger node.type && (next.any fun after => isHeavy after.type heavy) &&
    !next.any fun after => isRespond after.type after.name

def lateAnswer (node : Node) : Remark where
  nodeId := node.id
  message :=
    "Webhook \"" ++ node.label ++ "\" performs heavy processing before acknowledgment " ++
      "(risk of timeout/duplicates)"
  details := some <|
    "Add a \"Respond to Webhook\" node immediately after the webhook trigger (return 200/204), " ++
    "then perform heavy processing. This prevents webhook timeouts and duplicate events."

/-- R13: a webhook is answered before heavy work starts. -/
def webhookAcknowledgment : Rule where
  id := "R13"
  key := "webhook_acknowledgment"
  shape := "WebhookAcknowledgmentRule"
  remarks := fun config graph =>
    .ok ((graph.nodes.filter (answersLate (heavyTypes config) graph)).map lateAnswer)

end WorkflowLint.Rules
