import WorkflowLint.Proofs.MutationGuards

/-!
Contract: the order in which nodes and edges are declared.

When ids are distinct, a graph agrees everywhere with every rearrangement of its nodes and edges.
So each item is judged alike in both, and a whole run reports the same findings, in an order that
may differ.  The order decides at most whether the rule against repetition (R3) stops at a key that cannot
be written, before it has found a guard.
-/

set_option autoImplicit false

namespace WorkflowLint

/-- A rearranged graph with distinct ids looks the same from every id. -/
theorem Graph.agreeIn_of_perm {graph shuffled : Graph}
    (distinct : (graph.nodes.map Node.id).Nodup) (nodes : shuffled.nodes.Perm graph.nodes)
    (edges : shuffled.edges.Perm graph.edges) : AgreeIn (fun _ => True) graph shuffled where
  nodes := fun _ _ => nodes.mem_iff.symm
  lookup := by
    intro id _
    have alsoDistinct : (shuffled.nodes.map Node.id).Nodup :=
      (nodes.map Node.id).nodup_iff.mpr distinct
    ext node
    rw [node?_eq_some_iff distinct, node?_eq_some_iff alsoDistinct, nodes.mem_iff]
  edges := fun _ _ => edges.mem_iff.symm
  closed := fun _ _ => Iff.rfl

namespace Rules

open WorkflowLint.Graph (AgreeIn)
open Sequence (exists_gather_iff gather gather_congr gather_perm gather_perm_steps)

private theorem looksAt_of_perm {graph shuffled : Graph} (nodes : shuffled.nodes.Perm graph.nodes)
    (id : String) : looksAt id shuffled = looksAt id graph := by
  simp only [looksAt, nodes.length_eq, nodes.any_eq]

/-- A rule that judges items says the same about rearranged items. -/
theorem Judges.remarks_perm {α : Type} {rule : Rule} {items : Graph → List α}
    {liesIn : α → (String → Prop) → Prop} (judges : Judges AgreeIn rule items liesIn)
    {graph shuffled : Graph} {region : String → Prop}
    (agree : AgreeIn region graph shuffled)
    (same : (items graph).Perm (items shuffled))
    (lies : ∀ item ∈ items graph, liesIn item region)
    (looks : looksAt rule.id shuffled = looksAt rule.id graph) {config : Config}
    {remarks : List Remark} (succeeds : rule.remarks config graph = .ok remarks) :
    ∃ others, rule.remarks config shuffled = .ok others ∧ others.Perm remarks := by
  obtain ⟨check, gathered, sees⟩ := judges
  rw [gathered] at succeeds ⊢
  rw [looks]
  by_cases isSeen : looksAt rule.id graph = true
  · rw [if_pos isSeen] at succeeds ⊢
    rw [gather_congr fun item member => sees agree config item (lies item member)] at succeeds
    exact gather_perm same succeeds
  · rw [if_neg isSeen] at succeeds ⊢
    exact ⟨remarks, succeeds, .refl remarks⟩

section Shuffled

variable {graph shuffled : Graph} (distinct : (graph.nodes.map Node.id).Nodup)
  (nodes : shuffled.nodes.Perm graph.nodes) (edges : shuffled.edges.Perm graph.edges)
include distinct nodes edges

theorem remarks_perm_of_ne {rule : Rule} (listed : rule ∈ builtin) (notR3 : rule.id ≠ "R3")
    {config : Config} {remarks : List Remark} (succeeds : rule.remarks config graph = .ok remarks) :
    ∃ others, rule.remarks config shuffled = .ok others ∧ others.Perm remarks := by
  have agree := Graph.agreeIn_of_perm distinct nodes edges
  have looks := looksAt_of_perm nodes rule.id
  rcases judges_of_ne rule listed notR3 with onNodes | onEdges
  · exact onNodes.remarks_perm agree nodes.symm (fun _ _ => trivial) looks succeeds
  · exact onEdges.remarks_perm agree edges.symm (fun _ _ => ⟨trivial, trivial⟩) looks succeeds

private theorem unguarded_iff_of_perm {candidates : List String} {node : Node} :
    Unguarded candidates graph node ↔ Unguarded candidates shuffled node := by
  have agree := Graph.agreeIn_of_perm distinct nodes edges
  refine and_congr_right fun _ => not_congr (exists_congr fun guard => and_congr ?_ (and_congr_left ?_))
  · exact nodes.mem_iff.symm
  · exact fun _ => ⟨fun path => (agree.leads_from trivial path).1,
      fun path => (agree.symm.leads_from trivial path).1⟩

/-- R3 remarks on the same nodes, when it returns for both orders. -/
theorem idempotency_remarks_perm {config : Config} {remarks others : List Remark}
    (succeeds : idempotency.remarks config graph = .ok remarks)
    (again : idempotency.remarks config shuffled = .ok others) : others.Perm remarks := by
  classical
  have sameIngress : HasIngress shuffled ↔ HasIngress graph := by
    simp only [HasIngress, nodes.mem_iff]
  by_cases ingress : HasIngress graph
  · have ends := @idempotency_remarks_ends config graph ingress
    have endsAgain := @idempotency_remarks_ends config shuffled (sameIngress.mpr ingress)
    rw [succeeds] at ends
    rw [again] at endsAgain
    rw [show remarks = _ from ends, show others = _ from endsAgain]
    simp only [← unguarded_iff_of_perm distinct nodes edges]
    exact (nodes.filter _).map _
  · rw [idempotency_remarks_of_none ingress] at succeeds
    rw [idempotency_remarks_of_none (mt sameIngress.mp ingress)] at again
    cases succeeds
    cases again
    exact .refl []

private theorem remarks_perm_of_builtin {rule : Rule} (listed : rule ∈ builtin) {config : Config}
    {remarks others : List Remark} (succeeds : rule.remarks config graph = .ok remarks)
    (again : rule.remarks config shuffled = .ok others) : others.Perm remarks := by
  by_cases isR3 : rule.id = "R3"
  · cases eq_idempotency listed isR3
    exact idempotency_remarks_perm distinct nodes edges succeeds again
  · obtain ⟨same, returned, permuted⟩ := remarks_perm_of_ne distinct nodes edges listed isR3 succeeds
    cases returned.symm.trans again
    exact permuted

private theorem exists_remarks_of_shuffled {rule : Rule} (listed : rule ∈ builtin)
    (spellable : KeysSpellable graph) {config : Config} {remarks : List Remark}
    (succeeds : rule.remarks config graph = .ok remarks) :
    ∃ others, rule.remarks config shuffled = .ok others := by
  by_cases isR3 : rule.id = "R3"
  · cases eq_idempotency listed isR3
    exact exists_idempotency_remarks fun node member => spellable node (nodes.mem_iff.mp member)
  · obtain ⟨others, returned, _⟩ := remarks_perm_of_ne distinct nodes edges listed isR3 succeeds
    exact ⟨others, returned⟩

private theorem findings_perm_of_builtin {rule : Rule} (listed : rule ∈ builtin) {context : Context}
    {findings others : List Finding} (succeeds : rule.findings context graph = .ok findings)
    (again : rule.findings context shuffled = .ok others) : others.Perm findings := by
  obtain ⟨info, _, known⟩ := Rule.info_of_builtin listed
  rw [Rule.findings_eq known] at succeeds again
  by_cases isOn : rule.isEnabled context.config = true
  · rw [if_pos isOn] at succeeds again
    obtain ⟨remarks, remarked, rfl⟩ := Sequence.map_eq_ok_iff.mp succeeds
    obtain ⟨same, remarkedAgain, rfl⟩ := Sequence.map_eq_ok_iff.mp again
    exact (remarks_perm_of_builtin distinct nodes edges listed remarked remarkedAgain).map _
  · rw [if_neg isOn] at succeeds again
    cases succeeds
    cases again
    exact .refl []

private theorem exists_findings_of_shuffled {rule : Rule} (listed : rule ∈ builtin)
    (spellable : KeysSpellable graph) {context : Context} {findings : List Finding}
    (succeeds : rule.findings context graph = .ok findings) :
    ∃ others, rule.findings context shuffled = .ok others := by
  obtain ⟨info, _, known⟩ := Rule.info_of_builtin listed
  rw [Rule.findings_eq known] at succeeds ⊢
  split at succeeds
  · next isOn =>
      obtain ⟨remarks, remarked, _⟩ := Sequence.map_eq_ok_iff.mp succeeds
      obtain ⟨others, returned⟩ :=
        exists_remarks_of_shuffled distinct nodes edges listed spellable remarked
      rw [if_pos isOn, returned]
      exact ⟨_, rfl⟩
  · next isOff =>
      rw [if_neg isOff]
      exact ⟨[], rfl⟩

/-- A run over a graph with distinct ids and a run over a rearrangement of its nodes and edges report the
same findings up to their order, whenever both return.  When every key in the parameters of the nodes can
be written, the second returns if the first does. -/
theorem runAll_perm {context : Context} {findings : List Finding}
    (succeeds : runAll context graph [] = .ok findings) :
    (∀ others, runAll context shuffled [] = .ok others → others.Perm findings) ∧
      (KeysSpellable graph → ∃ others, runAll context shuffled [] = .ok others) := by
  rw [runAll_eq_gather] at succeeds
  simp only [runAll_eq_gather]
  constructor
  · intro others again
    refine gather_perm_steps (fun rule listed _ _ => ?_) succeeds again
    exact findings_perm_of_builtin distinct nodes edges listed
  · intro spellable
    refine exists_gather_iff.mpr fun rule listed => ?_
    obtain ⟨own, found⟩ := Sequence.exists_ok_of_gather succeeds rule listed
    exact exists_findings_of_shuffled distinct nodes edges listed spellable found

end Shuffled

/-- A start with two ends, one of which has no name and is reached on failure only. -/
def forkedGraph : Graph where
  nodes := [{ id := "s", type := "start" }, { id := "a", type := "set", name := some "Total" },
    { id := "b", type := "set" }]
  edges := [⟨"s", "a", .success⟩, ⟨"s", "b", .error⟩]

def orderContext : Context where
  path := "flow.json"
  config := { rules := { deadEnds := some ⟨true⟩, alertLogEnforcement := some ⟨true⟩,
                         namingConvention := some { enabled := true } } }

/-- Reversed declarations give the same five findings. -/
theorem runAll_perm_forked :
    ∃ findings others,
      (forkedGraph.nodes.map Node.id).Nodup ∧
      runAll orderContext forkedGraph [] = .ok findings ∧
      findings.map (fun finding => (finding.rule, finding.nodeId)) =
        [("R5", some "a"), ("R5", some "b"), ("R7", some "s"), ("R10", some "s"),
          ("R10", some "b")] ∧
      runAll orderContext
        { nodes := forkedGraph.nodes.reverse, edges := forkedGraph.edges.reverse } [] =
          .ok others ∧
      others.Perm findings := by
  have distinct : (forkedGraph.nodes.map Node.id).Nodup := by decide
  have found : runAll orderContext forkedGraph [] = .ok _ := rfl
  obtain ⟨permutes, returns⟩ :=
    @runAll_perm forkedGraph
      { nodes := forkedGraph.nodes.reverse, edges := forkedGraph.edges.reverse } distinct
      (List.reverse_perm _) (List.reverse_perm _) orderContext _ found
  have spellable : ∀ node ∈ forkedGraph.nodes, node.paramsValue.isSpellable = true := by
    decide +kernel
  obtain ⟨others, othersFound⟩ := returns fun node listed =>
    Value.keysSpellable_of_isSpellable (spellable node listed)
  exact ⟨_, others, distinct, found, rfl, othersFound, permutes others othersFound⟩

end Rules

end WorkflowLint
