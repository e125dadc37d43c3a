import WorkflowLint.Proofs.Faults
import WorkflowLint.Proofs.GraphRegions
import WorkflowLint.Proofs.RuleEvaluation

/-!
Contract: what the rules of a run read of a graph.

Every rule looks at the nodes of a graph one by one, or at its edges, and judges an item by the
region in which it lies.  Two rules also ask a question about the whole graph first: whether it has
an ingress, and whether it has several nodes.  The rule against repetition (R3) can stop at a node that
leads to an item, so for it the order of the nodes in the region matters too.  Main statement:
`judges_of_builtin`.
-/

set_option autoImplicit false

namespace WorkflowLint.Rules

open WorkflowLint.Graph (AgreeIn AlignedIn)
open Sequence (gather)

/-! ## Verdicts on items -/

/-- The search for a guard goes through the nodes that lead to the id. -/
theorem isGuarded_eq (candidates : List String) (graph : Graph) (id : String) :
    isGuarded candidates graph id =
      (graph.nodes.filter fun node => (graph.ancestors id).contains node.id).anyM fun node =>
        (node.paramsValue.mentions candidates).mapError .ofSearch :=
  Sequence.anyM_filter _ _ _

theorem reachesConsumer_iff {graph : Graph} {id : String} :
    reachesConsumer graph id = true ↔
      ∃ node ∈ graph.nodes, graph.Leads id node.id ∧
        node.id ≠ id ∧ isConsumer node.type = true := by
  simp only [reachesConsumer, List.any_eq_true, Bool.and_eq_true, List.contains_iff_mem,
    Graph.mem_descendants_iff, bne_iff_ne]
  refine exists_congr fun node => and_congr_right fun _ => ?_
  rw [and_comm (a := node.id ≠ id), and_assoc]

section Verdicts

variable {region : String → Prop} {left right : Graph}

private theorem ancestors_contains_eq (agree : AgreeIn region left right) {id : String}
    (inside : region id) (other : String) :
    (left.ancestors id).contains other = (right.ancestors id).contains other := by
  rw [Bool.eq_iff_iff, List.contains_iff_mem, List.contains_iff_mem, Graph.mem_ancestors_iff,
    Graph.mem_ancestors_iff]
  exact ⟨fun path => (agree.leads_to inside path).1, fun path => (agree.symm.leads_to inside path).1⟩

private theorem isGuarded_eq_of_aligned (aligned : AlignedIn region left right)
    (candidates : List String)
    {id : String} (inside : region id) :
    isGuarded candidates left id = isGuarded candidates right id := by
  have upstream (node : Node) (leads : (left.ancestors id).contains node.id = true) :
      region node.id := by
    rw [List.contains_iff_mem, Graph.mem_ancestors_iff] at leads
    exact (aligned.leads_to inside leads).2
  rw [isGuarded_eq, isGuarded_eq, aligned.order _ upstream]
  simp only [ancestors_contains_eq aligned.toAgreeIn inside]

theorem reachesConsumer_of_agree (agree : AgreeIn region left right) {id : String}
    (inside : region id) (reaches : reachesConsumer left id = true) :
    reachesConsumer right id = true := by
  refine reachesConsumer_iff.mpr (agree.exists_node (reachesConsumer_iff.mp reaches) ?_)
  rintro node ⟨path, consumes⟩
  obtain ⟨moved, nodeInside⟩ := agree.leads_from inside path
  exact ⟨⟨moved, consumes⟩, nodeInside⟩

private theorem guardRemarks_eq (aligned : AlignedIn region left right) (candidates : List String)
    {node : Node} (inside : region node.id) :
    guardRemarks candidates left node = guardRemarks candidates right node := by
  simp only [guardRemarks, lacksGuard, isGuarded_eq_of_aligned aligned candidates inside]

private theorem isDeadEnd_eq (agree : AgreeIn region left right) {node : Node}
    (inside : region node.id) :
    isDeadEnd left node = isDeadEnd right node := by
  simp only [isDeadEnd, agree.outgoing_isEmpty inside]

private theorem isUnused_eq (agree : AgreeIn region left right) {node : Node}
    (inside : region node.id) :
    isUnused left node = isUnused right node := by
  have same : reachesConsumer left node.id = reachesConsumer right node.id :=
    Bool.eq_iff_iff.mpr
      ⟨reachesConsumer_of_agree agree inside, reachesConsumer_of_agree agree.symm inside⟩
  simp only [isUnused, same, agree.outgoing_isEmpty inside]

private theorem answersLate_eq (agree : AgreeIn region left right) (heavy : List String) {node : Node}
    (inside : region node.id) :
    answersLate heavy left node = answersLate heavy right node := by
  have same (holds : Node → Bool) :
      (left.successors node.id).any holds = (right.successors node.id).any holds :=
    Graph.any_eq_any <| exists_congr fun _ => and_congr_left fun _ =>
      agree.mem_successors_iff inside
  simp only [answersLate, same]

private theorem lacksErrorBranch_eq (agree : AgreeIn region left right) {node : Node}
    (inside : region node.id) : lacksErrorBranch left node = lacksErrorBranch right node := by
  have same : (left.outgoing node.id).any (catchesFailure left) =
      (right.outgoing node.id).any (catchesFailure right) := by
    apply Graph.any_eq_any
    simp only [← agree.mem_outgoing_iff inside]
    refine exists_congr fun edge => and_congr_right fun member => ?_
    rw [catchesFailure, catchesFailure, agree.lookup edge.target (agree.target_inside inside member)]
  simp only [lacksErrorBranch, same]

private theorem isSilent_eq (agree : AgreeIn region left right) {edge : Edge}
    (inside : region edge.target) :
    isSilent left edge = isSilent right edge := by
  simp only [isSilent, agree.isHandled_eq inside]

private theorem silentBranch_eq (agree : AgreeIn region left right) {edge : Edge}
    (inside : region edge.source) : silentBranch left edge = silentBranch right edge := by
  simp only [silentBranch, sourceLabel, agree.lookup edge.source inside]

end Verdicts

/-! ## Rules that judge items -/

/-- Whether a rule looks at a graph at all: R3 wants an ingress, R5 more than one node. -/
def looksAt (id : String) (graph : Graph) : Bool :=
  if id = "R3" then graph.nodes.any fun node => isIngress node.type
  else if id = "R5" then decide (1 < graph.nodes.length)
  else true

theorem looksAt_of_ne {id : String} (notR3 : id ≠ "R3") (notR5 : id ≠ "R5") (graph : Graph) :
    looksAt id graph = true := by
  rw [looksAt, if_neg notR3, if_neg notR5]

/-- A rule looks at items of a graph one by one, and what it says about an item is the same in all
graphs that agree, in a sense, in a region in which the item lies. -/
def Judges {α : Type} (agrees : (String → Prop) → Graph → Graph → Prop) (rule : Rule)
    (items : Graph → List α) (liesIn : α → (String → Prop) → Prop) : Prop :=
  ∃ check : Config → Graph → α → Except RuleFault (List Remark),
    (∀ config graph, rule.remarks config graph =
      if looksAt rule.id graph then gather (check config graph) (items graph) else .ok []) ∧
    ∀ {region : String → Prop} {left right : Graph}, agrees region left right →
      ∀ config item, liesIn item region → check config left item = check config right item

theorem Judges.aligned {α : Type} {rule : Rule} {items : Graph → List α}
    {liesIn : α → (String → Prop) → Prop} (judges : Judges AgreeIn rule items liesIn) :
    Judges AlignedIn rule items liesIn := by
  obtain ⟨check, remarks, sees⟩ := judges
  exact ⟨check, remarks, fun aligned => sees aligned.toAgreeIn⟩

def nodeLiesIn (node : Node) (region : String → Prop) : Prop := region node.id

def edgeLiesIn (edge : Edge) (region : String → Prop) : Prop :=
  region edge.source ∧ region edge.target

/-- A rule judges nodes when its check of a node does not look past the region of the node. -/
theorem judges_of_check {rule : Rule} (notR3 : rule.id ≠ "R3") (notR5 : rule.id ≠ "R5")
    {check : Config → Graph → Node → Except RuleFault (List Remark)}
    (remarks : ∀ config graph, rule.remarks config graph = gather (check config graph) graph.nodes)
    (sees : ∀ {region : String → Prop} {left right : Graph}, AgreeIn region left right →
      ∀ config node, region node.id → check config left node = check config right node) :
    Judges AgreeIn rule Graph.nodes nodeLiesIn := by
  refine ⟨check, ?_, sees⟩
  intro config graph
  rw [if_pos (looksAt_of_ne notR3 notR5 graph), remarks]

/-- A rule judges nodes when it selects nodes by what their regions show. -/
theorem judges_of_select {rule : Rule} {chosen : Config → Graph → Node → Bool}
    {about : Config → Node → Remark}
    (remarks : ∀ config graph, rule.remarks config graph =
      if looksAt rule.id graph then
        .ok ((graph.nodes.filter (chosen config graph)).map (about config))
      else .ok [])
    (sees : ∀ {region : String → Prop} {left right : Graph}, AgreeIn region left right →
      ∀ config node, region node.id → chosen config left node = chosen config right node) :
    Judges AgreeIn rule Graph.nodes nodeLiesIn := by
  refine ⟨fun config graph node =>
    .ok (if chosen config graph node then [about config node] else []), ?_, ?_⟩
  · intro config graph
    rw [remarks, Sequence.gather_select]
  · intro region left right agree config node inside
    simp only [sees agree config node inside]

private theorem idempotency_judges : Judges AlignedIn idempotency Graph.nodes nodeLiesIn :=
  ⟨fun config graph => guardRemarks
      ((config.rules.idempotency.map IdempotencyBlock.keyFieldCandidates).getD []) graph,
    fun _ _ => rfl, fun aligned _ _ inside => guardRemarks_eq aligned _ inside⟩

private theorem deadEnds_judges : Judges AgreeIn deadEnds Graph.nodes nodeLiesIn := by
  refine @judges_of_select deadEnds (fun _ => isDeadEnd) (fun _ => deadEnd) ?_ ?_
  · intro config graph
    by_cases few : graph.nodes.length ≤ 1
    · simp [deadEnds, looksAt, few, Nat.not_lt.mpr few]
    · simp [deadEnds, looksAt, few, Nat.not_le.mp few]
  · exact fun agree _ _ inside => isDeadEnd_eq agree inside

private theorem unusedData_judges : Judges AgreeIn unusedData Graph.nodes nodeLiesIn :=
  judges_of_select (fun _ _ => rfl) fun agree _ _ inside => isUnused_eq agree inside

private theorem webhookAcknowledgment_judges :
    Judges AgreeIn webhookAcknowledgment Graph.nodes nodeLiesIn :=
  judges_of_select (fun _ _ => rfl) fun agree _ _ inside => answersLate_eq agree _ inside

private theorem alertLogEnforcement_judges :
    Judges AgreeIn alertLogEnforcement Graph.edges edgeLiesIn := by
  refine ⟨fun _ graph edge =>
    .ok (if isSilent graph edge then [silentBranch graph edge] else []), ?_, ?_⟩
  · intro config graph
    rw [Sequence.gather_select]
    rfl
  · intro region left right agree config edge inside
    simp only [isSilent_eq agree inside.2, silentBranch_eq agree inside.1]

private theorem unhandledErrorPath_judges :
    Judges AgreeIn unhandledErrorPath Graph.nodes nodeLiesIn := by
  refine judges_of_check (by decide) (by decide) (fun _ _ => rfl) ?_
  intro region left right agree config node inside
  simp only [lacksErrorBranch_eq agree inside]

/-- Every rule of a run but R3 judges nodes or edges, whatever their order. -/
theorem judges_of_ne : ∀ rule ∈ builtin, rule.id ≠ "R3" →
    Judges AgreeIn rule Graph.nodes nodeLiesIn ∨ Judges AgreeIn rule Graph.edges edgeLiesIn := by
  have alone {rule : Rule} {check : Config → Node → Except RuleFault (List Remark)}
      (notR3 : rule.id ≠ "R3") (notR5 : rule.id ≠ "R5")
      (remarks : ∀ config graph, rule.remarks config graph = gather (check config) graph.nodes) :
      Judges AgreeIn rule Graph.nodes nodeLiesIn :=
    judges_of_check notR3 notR5 remarks fun _ _ _ _ => rfl
  simp only [builtin, List.forall_mem_cons, List.not_mem_nil, false_implies, implies_true, and_true]
  refine ⟨?_, ?_, fun notR3 => absurd rfl notR3, ?_, fun _ => .inl deadEnds_judges, ?_,
    fun _ => .inr alertLogEnforcement_judges, fun _ => .inl unusedData_judges, ?_, ?_, ?_,
    fun _ => .inl unhandledErrorPath_judges, fun _ => .inl webhookAcknowledgment_judges, ?_⟩
  -- The other rules read the node alone.
  all_goals exact fun notR3 => .inl (alone notR3 (by decide) fun _ _ => rfl)

theorem eq_idempotency {rule : Rule} (listed : rule ∈ builtin) (isR3 : rule.id = "R3") :
    rule = idempotency := by
  simp only [builtin, List.mem_cons, List.not_mem_nil, or_false] at listed
  rcases listed with rfl | rfl | rfl | rfl | rfl | rfl | rfl | rfl | rfl | rfl | rfl | rfl | rfl | rfl
  case inr.inr.inl => rfl
  all_goals exact absurd isR3 (by decide)

/-- Every rule of a run judges nodes or edges. -/
theorem judges_of_builtin (rule : Rule) (listed : rule ∈ builtin) :
    Judges AlignedIn rule Graph.nodes nodeLiesIn ∨ Judges AlignedIn rule Graph.edges edgeLiesIn := by
  by_cases isR3 : rule.id = "R3"
  · rw [eq_idempotency listed isR3]
    exact .inl idempotency_judges
  · rcases judges_of_ne rule listed isR3 with onNodes | onEdges
    · exact .inl onNodes.aligned
    · exact .inr onEdges.aligned

end WorkflowLint.Rules
