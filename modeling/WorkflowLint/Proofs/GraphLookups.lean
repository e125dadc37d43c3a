import WorkflowLint.Graph.Session
import Mathlib.Data.List.Nodup

/-!
Contract: what lookups in a graph find.

Members of the lists that scans give, the node of an id when ids are distinct, and the tables of edges
by id.  The two tables of an index are built apart; each gives for an id the edges that a scan gives.
-/

set_option autoImplicit false

namespace WorkflowLint.Graph

/-! ## Scans -/

section Scans

variable {graph : Graph} {id : String}

@[simp] theorem mem_outgoing {edge : Edge} :
    edge ∈ graph.outgoing id ↔ edge ∈ graph.edges ∧ edge.source = id := by
  simp [outgoing]

@[simp] theorem mem_incoming {edge : Edge} :
    edge ∈ graph.incoming id ↔ edge ∈ graph.edges ∧ edge.target = id := by
  simp [incoming]

theorem mem_of_node?_eq_some {node : Node} (found : graph.node? id = some node) :
    node ∈ graph.nodes ∧ node.id = id :=
  ⟨List.mem_of_find?_eq_some found, by simpa using List.find?_some found⟩

theorem node?_eq_none_iff : graph.node? id = none ↔ ∀ node ∈ graph.nodes, node.id ≠ id := by
  simp [node?]

/-- Among nodes with distinct ids the node of an id is any node with that id. -/
theorem node?_eq_some_iff (distinct : (graph.nodes.map Node.id).Nodup) {node : Node} :
    graph.node? id = some node ↔ node ∈ graph.nodes ∧ node.id = id := by
  constructor
  · exact mem_of_node?_eq_some
  · rintro ⟨member, isId⟩
    cases found : graph.node? id with
    | none => exact absurd isId (node?_eq_none_iff.mp found node member)
    | some first =>
        obtain ⟨firstMember, firstId⟩ := mem_of_node?_eq_some found
        rw [List.inj_on_of_nodup_map distinct firstMember member (firstId.trans isId.symm)]

end Scans

/-! ## Tables -/

theorem lookup_enterLast {α : Type} (id other : String) (value : α) (table : Table (List α)) :
    ((enterLast id value table).lookup other).getD [] =
      (table.lookup other).getD [] ++ if other = id then [value] else [] := by
  induction table with
  | nil =>
      by_cases same : other = id
      · simp [enterLast, same]
      · simp [enterLast, List.lookup_cons, same, beq_false_of_ne same]
  | cons entry rest inductionHypothesis =>
      obtain ⟨key, values⟩ := entry
      by_cases isKey : key = id
      · subst isKey
        by_cases same : other = key
        · simp [enterLast, same]
        · simp [enterLast, List.lookup_cons, same, beq_false_of_ne same]
      · by_cases same : other = key
        · simp [enterLast, isKey, same]
        · simpa [enterLast, isKey, List.lookup_cons, beq_false_of_ne same] using inductionHypothesis

/-- A table that edges were entered into one by one has under an id, after what it had before, the
edges with that key. -/
theorem lookup_foldl_enterLast (key : Edge → String) (id : String) (edges : List Edge)
    (table : Table (List Edge)) :
    ((edges.foldl (fun table edge => enterLast (key edge) edge table) table).lookup id).getD [] =
      (table.lookup id).getD [] ++ edges.filter fun edge => key edge == id := by
  induction edges generalizing table with
  | nil => simp
  | cons edge rest inductionHypothesis =>
      rw [List.foldl_cons, inductionHypothesis, lookup_enterLast, List.filter_cons]
      by_cases same : id = key edge
      · simp [same]
      · simp [same, Ne.symm same]

theorem index_leaving (graph : Graph) (id : String) : graph.index.leaving id = graph.outgoing id :=
  lookup_foldl_enterLast Edge.source id graph.edges []

theorem index_entering (graph : Graph) (id : String) : graph.index.entering id = graph.incoming id :=
  lookup_foldl_enterLast Edge.target id graph.edges []

end WorkflowLint.Graph
