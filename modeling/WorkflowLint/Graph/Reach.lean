import WorkflowLint.Classification
import WorkflowLint.Graph.Basic

/-!
Contract: which ids are reached from an id.

Owns: the breadth first walk and what the rules ask of it.  The walk keeps the ids met and those
still to expand; an id is expanded once, and every id met except the first is the target of an edge,
so the number of edges bounds the number of expansions after the first.
-/

set_option autoImplicit false

namespace WorkflowLint.Graph

/-- The ids that are not among those met, each once. -/
def fresh (met : List String) : List String → List String
  | [] => []
  | id :: rest =>
      if met.contains id then fresh met rest else id :: fresh (id :: met) rest

/-- The ids met when those of the queue are expanded in turn. -/
def walk (next : String → List String) : Nat → List String → List String → List String
  | 0, met, _ => met
  | _ + 1, met, [] => met
  | fuel + 1, met, id :: queue =>
      let found := fresh met (next id)
      walk next fuel (met ++ found) (queue ++ found)

def reach (graph : Graph) (next : String → List String) (start : String) : List String :=
  walk next (graph.edges.length + 1) [start] [start]

def targets (graph : Graph) (id : String) : List String :=
  (graph.outgoing id).map (·.target)

def sources (graph : Graph) (id : String) : List String :=
  (graph.incoming id).map (·.source)

/-- Every id reached from an id along edges, itself included. -/
def descendants (graph : Graph) (start : String) : List String :=
  graph.reach graph.targets start

/-- Every id from which an id is reached along edges, itself included. -/
def ancestors (graph : Graph) (start : String) : List String :=
  graph.reach graph.sources start

/-- An error branch joins the main flow here: an error edge and another edge enter. -/
def isRejoin (graph : Graph) (id : String) : Bool :=
  let entering := graph.incoming id
  entering.any Edge.isError && entering.any fun edge => !edge.isError

def alerts (graph : Graph) (id : String) : Bool :=
  match graph.node? id with
  | some node => isNotification node.type || isErrorHandler node.type node.name
  | none => false

/-- Where an error branch goes on from an id: nowhere without a node, and nowhere once it has
joined the main flow. -/
def onward (graph : Graph) (id : String) : List String :=
  if (graph.node? id).isSome && !graph.isRejoin id then graph.targets id else []

/-- An error branch that starts at an id meets an alert before it joins the main flow. -/
def isHandled (graph : Graph) (start : String) : Bool :=
  (graph.reach graph.onward start).any graph.alerts

end WorkflowLint.Graph
