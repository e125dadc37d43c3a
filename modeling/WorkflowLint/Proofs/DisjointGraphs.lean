import WorkflowLint.Proofs.RuleLocality

/-!
Contract: the findings about two workflows that have nothing in common.

A graph that is made of two graphs without a common id, at nodes or at ends of edges, agrees with
each of them in the ids of that one, and has their nodes in the same order.  So a rule finds in the whole what it finds in the first and
then what it finds in the second, unless its question about the whole graph has different answers
for the two.
-/

set_option autoImplicit false

namespace WorkflowLint

namespace Graph

/-- The ids of a graph, at nodes and at ends of edges. -/
def ids (graph : Graph) : List String :=
  graph.nodes.map Node.id ++ graph.edges.map Edge.source ++ graph.edges.map Edge.target

/-- A graph is made of two graphs that have no id in common. -/
structure IsUnion (left right whole : Graph) : Prop where
  nodes : whole.nodes = left.nodes ++ right.nodes
  edges : whole.edges = left.edges ++ right.edges
  apart : ∀ id ∈ left.ids, id ∉ right.ids

section Ids

variable {graph : Graph}

theorem node_id_mem_ids {node : Node} (listed : node ∈ graph.nodes) : node.id ∈ graph.ids := by
  simp only [ids, List.mem_append, List.mem_map]
  exact .inl (.inl ⟨node, listed, rfl⟩)

theorem edge_source_mem_ids {edge : Edge} (listed : edge ∈ graph.edges) :
    edge.source ∈ graph.ids := by
  simp only [ids, List.mem_append, List.mem_map]
  exact .inl (.inr ⟨edge, listed, rfl⟩)

theorem edge_target_mem_ids {edge : Edge} (listed : edge ∈ graph.edges) :
    edge.target ∈ graph.ids := by
  simp only [ids, List.mem_append, List.mem_map]
  exact .inr ⟨edge, listed, rfl⟩

private theorem node?_eq_none_of_not_mem_ids {id : String} (absent : id ∉ graph.ids) :
    graph.node? id = none := by
  rw [node?_eq_none_iff]
  intro node listed isId
  exact absent (isId ▸ node_id_mem_ids listed)

end Ids

/-- What is chosen by ids that a graph does not have is none of its nodes. -/
theorem filter_eq_nil_of_apart {part rest : Graph} (apart : ∀ id ∈ part.ids, id ∉ rest.ids)
    {chosen : Node → Bool} (inside : ∀ node, chosen node = true → node.id ∈ part.ids) :
    rest.nodes.filter chosen = [] := by
  rw [List.filter_eq_nil_iff]
  intro node listed isChosen
  exact apart node.id (inside node isChosen) (node_id_mem_ids listed)

/-- A part of a graph agrees with the whole in its own ids, when the rest has none of them. -/
theorem alignedIn_of_part {part rest whole : Graph} (apart : ∀ id ∈ part.ids, id ∉ rest.ids)
    (nodes : whole.nodes = part.nodes ++ rest.nodes ∨ whole.nodes = rest.nodes ++ part.nodes)
    (edges : ∀ edge, edge ∈ whole.edges ↔ edge ∈ part.edges ∨ edge ∈ rest.edges)
    (lookup : ∀ id, rest.node? id = none → part.node? id = whole.node? id) :
    AlignedIn (fun id => id ∈ part.ids) part whole where
  nodes := by
    intro node inside
    have notInRest : node ∉ rest.nodes := fun listed => apart node.id inside (node_id_mem_ids listed)
    rcases nodes with first | last
    · simp [first, notInRest]
    · simp [last, notInRest]
  lookup := fun id inside => lookup id (node?_eq_none_of_not_mem_ids (apart id inside))
  edges := by
    intro edge inside
    have notInRest : edge ∉ rest.edges := by
      intro listed
      rcases inside with sourceInside | targetInside
      · exact apart edge.source sourceInside (edge_source_mem_ids listed)
      · exact apart edge.target targetInside (edge_target_mem_ids listed)
    rw [edges]
    simp [notInRest]
  closed := fun edge listed =>
    ⟨fun _ => edge_target_mem_ids listed, fun _ => edge_source_mem_ids listed⟩
  order := by
    intro chosen inside
    have none := filter_eq_nil_of_apart apart inside
    rcases nodes with first | last
    · rw [first, List.filter_append, none, List.append_nil]
    · rw [last, List.filter_append, none, List.nil_append]

section Union

variable {left right whole : Graph} (union : IsUnion left right whole)
include union

theorem IsUnion.node?_eq (id : String) :
    whole.node? id = (left.node? id).or (right.node? id) := by
  rw [node?, union.nodes, List.find?_append]
  rfl

theorem IsUnion.alignedIn_left : AlignedIn (fun id => id ∈ left.ids) left whole := by
  refine alignedIn_of_part union.apart (.inl union.nodes) (fun edge => ?_) fun id absent => ?_
  · rw [union.edges, List.mem_append]
  · rw [union.node?_eq, absent, Option.or_none]

theorem IsUnion.alignedIn_right : AlignedIn (fun id => id ∈ right.ids) right whole := by
  have apart : ∀ id ∈ right.ids, id ∉ left.ids :=
    fun id inRight inLeft => union.apart id inLeft inRight
  refine alignedIn_of_part apart (.inr union.nodes) (fun edge => ?_) fun id absent => ?_
  · rw [union.edges, List.mem_append, or_comm]
  · rw [union.node?_eq, absent, Option.none_or]

end Union

end Graph

namespace Rules

open WorkflowLint.Graph (AlignedIn IsUnion)
open Sequence (gather gather_append gather_congr)

/-- A rule that judges items says about a graph of two parts what it says about the first part and
then what it says about the second. -/
theorem Judges.remarks_of_parts {α : Type} {rule : Rule} {items : Graph → List α}
    {liesIn : α → (String → Prop) → Prop} (judges : Judges AlignedIn rule items liesIn)
    {left right whole : Graph} {leftRegion rightRegion : String → Prop}
    (leftAgrees : AlignedIn leftRegion left whole)
    (rightAgrees : AlignedIn rightRegion right whole)
    (joined : items whole = items left ++ items right)
    (leftLies : ∀ item ∈ items left, liesIn item leftRegion)
    (rightLies : ∀ item ∈ items right, liesIn item rightRegion)
    (leftLooks : looksAt rule.id left = looksAt rule.id whole)
    (rightLooks : looksAt rule.id right = looksAt rule.id whole) (config : Config) :
    rule.remarks config whole =
      do return (← rule.remarks config left) ++ (← rule.remarks config right) := by
  obtain ⟨check, remarks, sees⟩ := judges
  rw [remarks, remarks, remarks, leftLooks, rightLooks]
  cases looksAt rule.id whole with
  | false => rfl
  | true =>
      simp only [↓reduceIte]
      rw [joined, gather_append]
      rw [gather_congr fun item member => sees leftAgrees config item (leftLies item member),
        gather_congr fun item member => sees rightAgrees config item (rightLies item member)]

/-- The question that a rule asks about the whole graph has one answer for the whole and its parts. -/
theorem looksAt_of_union {left right whole : Graph} (union : IsUnion left right whole) {id : String}
    (ingress : id = "R3" → ((∃ node ∈ left.nodes, isIngress node.type = true) ↔
      ∃ node ∈ right.nodes, isIngress node.type = true))
    (several : id = "R5" → 2 ≤ left.nodes.length ∧ 2 ≤ right.nodes.length) :
    looksAt id left = looksAt id whole ∧ looksAt id right = looksAt id whole := by
  by_cases isR3 : id = "R3"
  · have sameAnswer : (left.nodes.any fun node => isIngress node.type) =
        right.nodes.any fun node => isIngress node.type := Graph.any_eq_any (ingress isR3)
    simp only [looksAt, isR3, ↓reduceIte, union.nodes, List.any_append, sameAnswer, Bool.or_self,
      and_self]
  · by_cases isR5 : id = "R5"
    · obtain ⟨leftLength, rightLength⟩ := several isR5
      have looks {graph : Graph} (enough : 2 ≤ graph.nodes.length) : looksAt id graph = true := by
        rw [looksAt, if_neg isR3, if_pos isR5, decide_eq_true_eq]
        omega
      have wholeLength : 2 ≤ whole.nodes.length := by
        rw [union.nodes, List.length_append]
        omega
      rw [looks leftLength, looks rightLength, looks wholeLength]
      exact ⟨rfl, rfl⟩
    · simp only [looksAt_of_ne isR3 isR5, and_self]

/-- A rule finds in a graph of two parts without a common id what it finds in the first part and
then what it finds in the second.  R3 must find an ingress in both parts or in none, R5 at least two
nodes in each. -/
theorem findings_of_union {left right whole : Graph} (union : IsUnion left right whole)
    (context : Context) {rule : Rule} (listed : rule ∈ builtin)
    (ingress : rule.id = "R3" → ((∃ node ∈ left.nodes, isIngress node.type = true) ↔
      ∃ node ∈ right.nodes, isIngress node.type = true))
    (several : rule.id = "R5" → 2 ≤ left.nodes.length ∧ 2 ≤ right.nodes.length) :
    rule.findings context whole =
      do return (← rule.findings context left) ++ (← rule.findings context right) := by
  obtain ⟨info, _, known⟩ := Rule.info_of_builtin listed
  obtain ⟨leftLooks, rightLooks⟩ := looksAt_of_union union ingress several
  have remarks : rule.remarks context.config whole =
      do return (← rule.remarks context.config left) ++ (← rule.remarks context.config right) := by
    rcases judges_of_builtin rule listed with onNodes | onEdges
    · exact onNodes.remarks_of_parts union.alignedIn_left union.alignedIn_right union.nodes
        (fun _ => Graph.node_id_mem_ids) (fun _ => Graph.node_id_mem_ids) leftLooks rightLooks _
    · exact onEdges.remarks_of_parts union.alignedIn_left union.alignedIn_right union.edges
        (fun _ member => ⟨Graph.edge_source_mem_ids member, Graph.edge_target_mem_ids member⟩)
        (fun _ member => ⟨Graph.edge_source_mem_ids member, Graph.edge_target_mem_ids member⟩)
        leftLooks rightLooks _
  simp only [Rule.findings_eq known]
  split
  · rw [remarks]
    simp
  · rfl

/-- Data that comes in from outside is stored, and nothing guards against repetition. -/
def intake (mark : String) : Graph where
  nodes := [{ id := "hook" ++ mark, type := "webhook" }, { id := "save" ++ mark, type := "insert" }]
  edges := [⟨"hook" ++ mark, "save" ++ mark, .success⟩]

def guardContext : Context where
  path := "flow.json"
  config := { rules := { idempotency := some { enabled := true } } }

/-- Two intakes in one graph give the findings of both; each has an ingress of its own. -/
theorem findings_of_union_intakes :
    ∃ whole first second,
      IsUnion (intake "1") (intake "2") whole ∧
      idempotency.findings guardContext (intake "1") = .ok [first] ∧
      idempotency.findings guardContext (intake "2") = .ok [second] ∧
      first.nodeId = some "save1" ∧ second.nodeId = some "save2" ∧
      idempotency.findings guardContext whole = .ok [first, second] := by
  have union : IsUnion (intake "1") (intake "2")
      { nodes := (intake "1").nodes ++ (intake "2").nodes
        edges := (intake "1").edges ++ (intake "2").edges } :=
    ⟨rfl, rfl, by decide⟩
  have firstFound : idempotency.findings guardContext (intake "1") = .ok [_] := rfl
  have secondFound : idempotency.findings guardContext (intake "2") = .ok [_] := rfl
  refine ⟨_, _, _, union, firstFound, secondFound, rfl, rfl, ?_⟩
  rw [findings_of_union union guardContext (by simp [builtin]) (by decide) (by decide), firstFound,
    secondFound]
  rfl

end Rules

end WorkflowLint
