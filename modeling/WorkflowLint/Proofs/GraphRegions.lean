import WorkflowLint.Proofs.Reachability

/-!
Contract: what a graph looks like from within a region.

A region is a set of ids that no edge leaves or enters.  Two graphs that agree in a region, on nodes,
on the first node with an id and on edges, look the same to everything that starts at an id of the
region and follows edges: the same ids are reached, the same error branches are handled.
-/

set_option autoImplicit false

namespace WorkflowLint.Graph

open Relation (ReflTransGen)

/-- Two graphs agree in a region, and no edge crosses its border. -/
structure AgreeIn (region : String → Prop) (left right : Graph) : Prop where
  nodes : ∀ node : Node, region node.id → (node ∈ left.nodes ↔ node ∈ right.nodes)
  lookup : ∀ id, region id → left.node? id = right.node? id
  edges : ∀ edge : Edge, region edge.source ∨ region edge.target →
    (edge ∈ left.edges ↔ edge ∈ right.edges)
  closed : ∀ edge ∈ left.edges, region edge.source ↔ region edge.target

/-- Two graphs agree in a region, and its nodes stand in the same order. -/
structure AlignedIn (region : String → Prop) (left right : Graph) : Prop
    extends AgreeIn region left right where
  order : ∀ chosen : Node → Bool, (∀ node, chosen node = true → region node.id) →
    left.nodes.filter chosen = right.nodes.filter chosen

/-- Steps that one relation makes inside a region, and that stay there, are steps of another. -/
theorem reflTransGen_transfer {region : String → Prop} {left right : String → String → Prop}
    {start id : String} (path : ReflTransGen left start id) (inside : region start)
    (step : ∀ {source target}, region source → left source target →
      right source target ∧ region target) :
    ReflTransGen right start id ∧ region id := by
  induction path with
  | refl => exact ⟨.refl, inside⟩
  | tail _ taken inductionHypothesis =>
      obtain ⟨before, middleInside⟩ := inductionHypothesis
      obtain ⟨after, lastInside⟩ := step middleInside taken
      exact ⟨before.tail after, lastInside⟩

theorem any_eq_any {α β : Type} {left : List α} {right : List β} {first : α → Bool}
    {second : β → Bool}
    (same : (∃ item ∈ left, first item = true) ↔ ∃ item ∈ right, second item = true) :
    left.any first = right.any second := by
  rw [Bool.eq_iff_iff, List.any_eq_true, List.any_eq_true]
  exact same

namespace AgreeIn

variable {region : String → Prop} {left right : Graph}

theorem symm (agree : AgreeIn region left right) : AgreeIn region right left where
  nodes := fun node inside => (agree.nodes node inside).symm
  lookup := fun id inside => (agree.lookup id inside).symm
  edges := fun edge inside => (agree.edges edge inside).symm
  closed := by
    intro edge member
    constructor
    · intro inside
      exact (agree.closed edge ((agree.edges edge (.inl inside)).mpr member)).mp inside
    · intro inside
      exact (agree.closed edge ((agree.edges edge (.inr inside)).mpr member)).mpr inside

/-! ## Edges at an id -/

theorem mem_outgoing_iff (agree : AgreeIn region left right) {id : String} (inside : region id)
    {edge : Edge} : edge ∈ left.outgoing id ↔ edge ∈ right.outgoing id := by
  rw [mem_outgoing, mem_outgoing]
  exact and_congr_left fun isSource => agree.edges edge (.inl (isSource ▸ inside))

private theorem mem_incoming_iff (agree : AgreeIn region left right) {id : String}
    (inside : region id)
    {edge : Edge} : edge ∈ left.incoming id ↔ edge ∈ right.incoming id := by
  rw [mem_incoming, mem_incoming]
  exact and_congr_left fun isTarget => agree.edges edge (.inr (isTarget ▸ inside))

/-- The edges that leave an id of a region lead to ids of the region. -/
theorem target_inside (agree : AgreeIn region left right) {id : String} (inside : region id)
    {edge : Edge} (member : edge ∈ left.outgoing id) : region edge.target := by
  obtain ⟨listed, isSource⟩ := mem_outgoing.mp member
  exact (agree.closed edge listed).mp (isSource ▸ inside)

theorem outgoing_isEmpty (agree : AgreeIn region left right) {id : String} (inside : region id) :
    (left.outgoing id).isEmpty = (right.outgoing id).isEmpty := by
  rw [Bool.eq_iff_iff, List.isEmpty_iff, List.isEmpty_iff, List.eq_nil_iff_forall_not_mem,
    List.eq_nil_iff_forall_not_mem]
  exact forall_congr' fun _ => not_congr (agree.mem_outgoing_iff inside)

private theorem isRejoin_eq (agree : AgreeIn region left right) {id : String} (inside : region id) :
    left.isRejoin id = right.isRejoin id := by
  have same (holds : Edge → Bool) : (left.incoming id).any holds = (right.incoming id).any holds :=
    any_eq_any <| exists_congr fun _ => and_congr_left fun _ => agree.mem_incoming_iff inside
  simp only [isRejoin, same]

private theorem alerts_eq (agree : AgreeIn region left right) {id : String} (inside : region id) :
    left.alerts id = right.alerts id := by
  simp only [alerts, agree.lookup id inside]

theorem mem_successors_iff (agree : AgreeIn region left right) {id : String} (inside : region id)
    {node : Node} : node ∈ left.successors id ↔ node ∈ right.successors id := by
  simp only [successors, List.mem_filterMap, ← agree.mem_outgoing_iff inside]
  refine exists_congr fun edge => and_congr_right fun member => ?_
  rw [agree.lookup edge.target (agree.target_inside inside member)]

/-! ## Paths -/

theorem joins_of_source (agree : AgreeIn region left right) {source target : String}
    (inside : region source) (joins : left.Joins source target) :
    right.Joins source target ∧ region target := by
  obtain ⟨edge, listed, rfl, rfl⟩ := joins
  exact ⟨⟨edge, (agree.edges edge (.inl inside)).mp listed, rfl, rfl⟩,
    (agree.closed edge listed).mp inside⟩

private theorem joins_of_target (agree : AgreeIn region left right) {source target : String}
    (inside : region target) (joins : left.Joins source target) :
    right.Joins source target ∧ region source := by
  obtain ⟨edge, listed, rfl, rfl⟩ := joins
  exact ⟨⟨edge, (agree.edges edge (.inr inside)).mp listed, rfl, rfl⟩,
    (agree.closed edge listed).mpr inside⟩

theorem leads_from (agree : AgreeIn region left right) {start id : String} (inside : region start)
    (path : left.Leads start id) : right.Leads start id ∧ region id :=
  reflTransGen_transfer path inside agree.joins_of_source

theorem leads_to (agree : AgreeIn region left right) {start id : String} (inside : region start)
    (path : left.Leads id start) : right.Leads id start ∧ region id := by
  have backwards : ReflTransGen (Function.swap left.Joins) start id :=
    Relation.reflTransGen_swap.mp path
  obtain ⟨moved, idInside⟩ := reflTransGen_transfer backwards inside agree.joins_of_target
  exact ⟨Relation.reflTransGen_swap.mpr moved, idInside⟩

/-- A node of the one graph gives a node of the other when what holds of it holds in the region
only. -/
theorem exists_node (agree : AgreeIn region left right) {leftHas rightHas : Node → Prop}
    (found : ∃ node ∈ left.nodes, leftHas node)
    (moves : ∀ {node}, leftHas node → rightHas node ∧ region node.id) :
    ∃ node ∈ right.nodes, rightHas node := by
  obtain ⟨node, listed, has⟩ := found
  obtain ⟨alsoHas, nodeInside⟩ := moves has
  exact ⟨node, (agree.nodes node nodeInside).mp listed, alsoHas⟩

/-! ## Error branches -/

theorem onward_of_onward (agree : AgreeIn region left right) {source target : String}
    (inside : region source) (goesOn : target ∈ left.onward source) :
    target ∈ right.onward source ∧ region target := by
  unfold onward at goesOn ⊢
  rw [← agree.lookup source inside, ← agree.isRejoin_eq inside]
  split at goesOn
  next isOpen =>
    rw [if_pos isOpen, mem_targets]
    exact agree.joins_of_source inside (left.mem_targets.mp goesOn)
  next => cases goesOn

end AgreeIn

theorem onward_subset (graph : Graph) (id : String) :
    graph.onward id ⊆ graph.edges.map Edge.target := by
  unfold onward
  split
  · exact graph.targets_subset id
  · exact List.nil_subset _

/-- An error branch is handled when a way that it can go on meets an alert. -/
theorem isHandled_iff {graph : Graph} {start : String} :
    graph.isHandled start = true ↔
      ∃ id, ReflTransGen (fun source target => target ∈ graph.onward source) start id ∧
        graph.alerts id = true := by
  rw [isHandled, List.any_eq_true]
  simp only [mem_reach_iff graph.onward_subset]

namespace AgreeIn

variable {region : String → Prop} {left right : Graph}

theorem isHandled_of_isHandled (agree : AgreeIn region left right) {start : String}
    (inside : region start) (handled : left.isHandled start = true) :
    right.isHandled start = true := by
  obtain ⟨id, path, alert⟩ := isHandled_iff.mp handled
  obtain ⟨moved, idInside⟩ := reflTransGen_transfer path inside agree.onward_of_onward
  exact isHandled_iff.mpr ⟨id, moved, agree.alerts_eq idInside ▸ alert⟩

theorem isHandled_eq (agree : AgreeIn region left right) {start : String} (inside : region start) :
    left.isHandled start = right.isHandled start :=
  Bool.eq_iff_iff.mpr
    ⟨agree.isHandled_of_isHandled inside, agree.symm.isHandled_of_isHandled inside⟩

end AgreeIn

end WorkflowLint.Graph
