import WorkflowLint.Proofs.GraphLookups

/-!
Contract: lookups through the index of a session give what scans of the graph give.

Ids may repeat and edges may dangle.  The first node of an id stays in the table of nodes, and the tables
of edges keep the order of the edges, so each table gives for an id what a scan gives.  A session on a
graph has no index yet or the index of that graph; every lookup leaves it so.
-/

set_option autoImplicit false

namespace WorkflowLint.Graph

/-! ## The table of nodes -/

theorem lookup_enterFirst {α : Type} (id other : String) (value : α) (table : Table α) :
    (enterFirst id value table).lookup other =
      (table.lookup other).or (if id = other then some value else none) := by
  induction table with
  | nil =>
      by_cases same : id = other
      · simp [enterFirst, same]
      · simp [enterFirst, List.lookup_cons, same, beq_false_of_ne (Ne.symm same)]
  | cons entry rest inductionHypothesis =>
      obtain ⟨key, old⟩ := entry
      by_cases isKey : key = id
      · subst isKey
        by_cases same : key = other
        · simp [enterFirst, same]
        · simp [enterFirst, same]
      · by_cases same : other = key
        · simp [enterFirst, isKey, same]
        · simp [enterFirst, isKey, List.lookup_cons, beq_false_of_ne same, inductionHypothesis]

/-- A table that nodes were entered into one by one has under an id what it had before, or else the
first node with that id. -/
theorem lookup_foldl_enterFirst (id : String) (nodes : List Node) (table : Table Node) :
    (nodes.foldl (fun table node => enterFirst node.id node table) table).lookup id =
      (table.lookup id).or (nodes.find? fun node => node.id == id) := by
  induction nodes generalizing table with
  | nil => simp
  | cons node rest inductionHypothesis =>
      rw [List.foldl_cons, inductionHypothesis, lookup_enterFirst, Option.or_assoc]
      by_cases same : node.id = id
      · simp only [List.find?_cons, same, beq_self_eq_true, if_true, Option.some_or]
      · simp only [List.find?_cons, beq_false_of_ne same, same, if_false, Option.none_or]

theorem index_node? (graph : Graph) (id : String) : graph.index.node? id = graph.node? id :=
  lookup_foldl_enterFirst id graph.nodes []

private theorem index_successors (graph : Graph) (id : String) :
    graph.index.successors id = graph.successors id := by
  simp only [Index.successors, successors, index_leaving, index_node?]

/-! ## Sessions -/

/-- The answer that a scan of the graph gives. -/
def scan (graph : Graph) : Lookup → Answer
  | .node id => .node (graph.nodes.find? fun node => node.id == id)
  | .outgoing id => .edges (graph.edges.filter fun edge => edge.source == id)
  | .incoming id => .edges (graph.edges.filter fun edge => edge.target == id)
  | .successors id =>
      .nodes ((graph.edges.filter fun edge => edge.source == id).filterMap fun edge =>
        graph.nodes.find? fun node => node.id == edge.target)

private theorem index_answer (graph : Graph) (lookup : Lookup) :
    graph.index.answer lookup = graph.scan lookup := by
  cases lookup with
  | node id => exact congrArg Answer.node (index_node? graph id)
  | outgoing id => exact congrArg Answer.edges (index_leaving graph id)
  | incoming id => exact congrArg Answer.edges (index_entering graph id)
  | successors id => exact congrArg Answer.nodes (index_successors graph id)

namespace Session

/-- A session on a graph: it has the index of the graph, or none yet. -/
structure IsOn (graph : Graph) (session : Session) : Prop where
  isGraph : session.graph = graph
  isIndex : ∀ index ∈ session.index?, index = graph.index

variable {graph : Graph} {session : Session}

private theorem isOn_ofGraph (graph : Graph) : IsOn graph (ofGraph graph) := by
  refine ⟨rfl, ?_⟩
  intro index isIndex
  cases isIndex

theorem IsOn.indexed_eq (on : IsOn graph session) : session.indexed = graph.index := by
  rw [indexed]
  cases known : session.index? with
  | none => rw [Option.getD_none, on.isGraph]
  | some index => exact on.isIndex index known

/-- One lookup: the answer is that of a scan, and the session is still one on the graph. -/
theorem IsOn.ask (on : IsOn graph session) (lookup : Lookup) :
    (session.ask lookup).1 = graph.scan lookup ∧ IsOn graph (session.ask lookup).2 := by
  constructor
  · rw [Session.ask, on.indexed_eq, index_answer]
  · refine ⟨on.isGraph, ?_⟩
    intro index isIndex
    rw [← Option.some.inj isIndex, on.indexed_eq]

/-- A run of lookups. -/
theorem IsOn.askAll (on : IsOn graph session) (lookups : List Lookup) :
    (session.askAll lookups).1 = lookups.map graph.scan ∧ IsOn graph (session.askAll lookups).2 := by
  induction lookups generalizing session with
  | nil => exact ⟨rfl, on⟩
  | cons lookup rest inductionHypothesis =>
      obtain ⟨isScan, stillOn⟩ := on.ask lookup
      obtain ⟨areScans, lastOn⟩ := inductionHypothesis stillOn
      exact ⟨congrArg₂ List.cons isScan areScans, lastOn⟩

/-- However often and in whatever order a graph is asked, each lookup gives what a scan of its nodes and
edges gives. -/
theorem lookups_agree_with_scans (graph : Graph) (lookups : List Lookup) :
    ((ofGraph graph).askAll lookups).1 = lookups.map graph.scan :=
  ((isOn_ofGraph graph).askAll lookups).1

end Session

end WorkflowLint.Graph
