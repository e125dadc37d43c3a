import WorkflowLint.Graph.Basic

/-!
Contract: lookups through an index that is built once.

Owns: the index and the session that holds a graph with its index.  The first lookup builds the
index; nodes and edges that are added later are part of the graph but not of the index.
-/

set_option autoImplicit false

namespace WorkflowLint.Graph

abbrev Table (α : Type) := List (String × α)

/-- Enter a value unless the id has one. -/
def enterFirst {α : Type} (id : String) (value : α) : Table α → Table α
  | [] => [(id, value)]
  | (other, old) :: rest =>
      if other == id then (other, old) :: rest else (other, old) :: enterFirst id value rest

def enterLast {α : Type} (id : String) (value : α) : Table (List α) → Table (List α)
  | [] => [(id, [value])]
  | (other, values) :: rest =>
      if other == id then (other, values ++ [value]) :: rest
      else (other, values) :: enterLast id value rest

structure Index where
  /-- The graph as it was when the tables were built. -/
  graph : Graph
  nodes : Table Node
  outgoing : Table (List Edge)
  incoming : Table (List Edge)

inductive Lookup where
  | node (id : String)
  | outgoing (id : String)
  | incoming (id : String)
  | successors (id : String)

inductive Answer where
  | node (found : Option Node)
  | edges (found : List Edge)
  | nodes (found : List Node)

def index (graph : Graph) : Index where
  graph := graph
  nodes := graph.nodes.foldl (fun table node => enterFirst node.id node table) []
  outgoing := graph.edges.foldl (fun table edge => enterLast edge.source edge table) []
  incoming := graph.edges.foldl (fun table edge => enterLast edge.target edge table) []

namespace Index

def node? (index : Index) (id : String) : Option Node := index.nodes.lookup id

def leaving (index : Index) (id : String) : List Edge := (index.outgoing.lookup id).getD []

def entering (index : Index) (id : String) : List Edge := (index.incoming.lookup id).getD []

def successors (index : Index) (id : String) : List Node :=
  (index.leaving id).filterMap fun edge => index.node? edge.target

def answer (index : Index) : Lookup → Answer
  | .node id => .node (index.node? id)
  | .outgoing id => .edges (index.leaving id)
  | .incoming id => .edges (index.entering id)
  | .successors id => .nodes (index.successors id)

end Index

/-- A graph with the index of its first lookup. -/
structure Session where
  graph : Graph
  index? : Option Index

namespace Session

def ofGraph (graph : Graph) : Session := ⟨graph, none⟩

def indexed (session : Session) : Index := session.index?.getD session.graph.index

def afterLookup (session : Session) : Session := ⟨session.graph, some session.indexed⟩

def ask (session : Session) (lookup : Lookup) : Answer × Session :=
  (session.indexed.answer lookup, session.afterLookup)

def askAll (session : Session) : List Lookup → List Answer × Session
  | [] => ([], session)
  | lookup :: rest =>
      let (answer, next) := session.ask lookup
      let (answers, last) := next.askAll rest
      (answer :: answers, last)

def addNode (session : Session) (node : Node) : Session :=
  { session with graph := { session.graph with nodes := session.graph.nodes ++ [node] } }

def addEdge (session : Session) (edge : Edge) : Session :=
  { session with graph := { session.graph with edges := session.graph.edges ++ [edge] } }

end Session

end WorkflowLint.Graph
