import WorkflowLint.Value.Basic

/-!
Contract: the graph of a workflow.

Owns: nodes, edges with their outcomes, and lookups by node id as plain scans.  Ids may repeat and
edges may dangle; nothing here relies on the opposite.
-/

set_option autoImplicit false

namespace WorkflowLint

inductive Outcome where
  | success
  | error
  | timeout
  deriving DecidableEq

def Outcome.label : Outcome → String
  | .success => "success"
  | .error => "error"
  | .timeout => "timeout"

def Outcome.ofLabel? : String → Option Outcome
  | "success" => some .success
  | "error" => some .error
  | "timeout" => some .timeout
  | _ => none

/-- Execution flags of a node; a flag that is not given is null. -/
structure Flags where
  continueOnFail : Value := .null
  retryOnFail : Value := .null
  waitBetweenTries : Value := .null
  maxTries : Value := .null

def Flags.fields (flags : Flags) : List (String × Value) :=
  [("continueOnFail", flags.continueOnFail), ("retryOnFail", flags.retryOnFail),
    ("waitBetweenTries", flags.waitBetweenTries), ("maxTries", flags.maxTries)].filter
    fun (_, value) => !value.isNull

structure Node where
  id : String
  type : String
  name : Option String := none
  params : Option (List (Value × Value)) := none
  credentials : Option (List (Value × Value)) := none
  flags : Option Flags := none

namespace Node

def nameText (node : Node) : String := node.name.getD ""

/-- What messages call the node: its name, or its id when it has none. -/
def label (node : Node) : String :=
  if node.nameText.isEmpty then node.id else node.nameText

/-- The parameters as a value, null when there are none. -/
def paramsValue (node : Node) : Value :=
  match node.params with
  | some entries => .map entries
  | none => .null

def fields (node : Node) : List (String × Value) :=
  [("id", Value.str node.id), ("type", .str node.type)] ++
    Value.optionalField "name" .str node.name ++ Value.optionalField "params" .map node.params ++
    Value.optionalField "cred" .map node.credentials ++
    Value.optionalField "flags" (fun flags => .record flags.fields) node.flags

def toValue (node : Node) : Value := .record node.fields

end Node

structure Edge where
  source : String
  target : String
  outcome : Outcome := .success
  deriving DecidableEq

def Edge.isError (edge : Edge) : Bool := edge.outcome == .error

structure Graph where
  nodes : List Node := []
  edges : List Edge := []
  hasCredentials : Bool := false
  nodeLines : List (String × Int) := []

namespace Graph

def node? (graph : Graph) (id : String) : Option Node :=
  graph.nodes.find? fun node => node.id == id

def outgoing (graph : Graph) (id : String) : List Edge :=
  graph.edges.filter fun edge => edge.source == id

def incoming (graph : Graph) (id : String) : List Edge :=
  graph.edges.filter fun edge => edge.target == id

/-- The nodes that the edges leaving an id lead to, one per edge; targets without a node are left
out. -/
def successors (graph : Graph) (id : String) : List Node :=
  (graph.outgoing id).filterMap fun edge => graph.node? edge.target

end Graph

end WorkflowLint
