import WorkflowLint.Proofs.ErrorCoverage
import WorkflowLint.Proofs.MutationGuards

/-!
Contract: what added edges do to the findings of a rule.

Three rules look for something that is missing: a guard on the way to a change of data (R3), a next step
(R5), and a way out of a failure (R12).  Edges can only supply it.  Main statement: with the same nodes
and further edges each of these rules keeps some of its findings, unchanged and in order, and has no
others.  R3 returns when every key in the parameters of the nodes can be written, the others always do.
-/

set_option autoImplicit false

namespace WorkflowLint

/-! ## Graphs with further edges -/

namespace Graph

/-- The second graph has the nodes of the first, in their order, and at least its edges. -/
structure Extends (graph wired : Graph) : Prop where
  sameNodes : wired.nodes = graph.nodes
  edges : graph.edges ⊆ wired.edges

namespace Extends

variable {graph wired : Graph} (extended : graph.Extends wired)
include extended

theorem joins {source target : String} (joins : graph.Joins source target) :
    wired.Joins source target := by
  obtain ⟨edge, listed, ends⟩ := joins
  exact ⟨edge, extended.edges listed, ends⟩

theorem leads {start last : String} (path : graph.Leads start last) : wired.Leads start last := by
  refine Relation.ReflTransGen.mono ?_ start last path
  exact fun _ _ => extended.joins

private theorem outgoing_subset (id : String) : graph.outgoing id ⊆ wired.outgoing id := by
  intro edge leaves
  obtain ⟨listed, isSource⟩ := mem_outgoing.mp leaves
  exact mem_outgoing.mpr ⟨extended.edges listed, isSource⟩

theorem node?_eq (id : String) : wired.node? id = graph.node? id := by
  rw [node?, node?, extended.sameNodes]

end Extends

end Graph

namespace Rules

section Verdicts

variable {graph wired : Graph} (extended : graph.Extends wired)
include extended

/-- A guard stays upstream of what it guards. -/
theorem unguarded_of_extends {candidates : List String} {node : Node}
    (unguarded : Unguarded candidates wired node) : Unguarded candidates graph node := by
  refine ⟨unguarded.1, ?_⟩
  rintro ⟨guard, listed, path, mentions⟩
  rw [← extended.sameNodes] at listed
  exact unguarded.2 ⟨guard, listed, extended.leads path, mentions⟩

private theorem isDeadEnd_of_extends {node : Node} (dead : isDeadEnd wired node = true) :
    isDeadEnd graph node = true := by
  simp only [isDeadEnd, Bool.and_eq_true, List.isEmpty_iff] at dead ⊢
  obtain ⟨nothingLeaves, noEnd⟩ := dead
  have within := extended.outgoing_subset node.id
  rw [nothingLeaves] at within
  exact ⟨List.subset_nil.mp within, noEnd⟩

private theorem catchesFailure_eq (edge : Edge) :
    catchesFailure wired edge = catchesFailure graph edge := by
  rw [catchesFailure, catchesFailure, extended.node?_eq]

/-- The edge that catches a failure stays. -/
theorem lacksErrorBranch_of_extends {node : Node} (lacks : lacksErrorBranch wired node = true) :
    lacksErrorBranch graph node = true := by
  rw [lacksErrorBranch_iff] at lacks ⊢
  obtain ⟨prone, uncaught⟩ := lacks
  refine ⟨prone, ?_⟩
  intro edge listed isSource
  rw [← catchesFailure_eq extended edge]
  exact uncaught edge (extended.edges listed) isSource

end Verdicts

/-- What a rule finds in the graph with further edges is part of what it finds without them. -/
def Shrinks (rule : Rule) (context : Context) (graph wired : Graph) : Prop :=
  ∃ before after, rule.findings context graph = .ok before ∧
    rule.findings context wired = .ok after ∧ after.Sublist before

section Findings

variable {graph wired : Graph} {context : Context}

theorem Shrinks.sublist {rule : Rule} (shrinks : Shrinks rule context graph wired)
    (before after : List Finding) (found : rule.findings context graph = .ok before)
    (foundAgain : rule.findings context wired = .ok after) : after.Sublist before := by
  obtain ⟨_, _, first, second, isPart⟩ := shrinks
  cases first.symm.trans found
  cases second.symm.trans foundAgain
  exact isPart

/-- A rule that selects nodes, whose question about the whole graph reads the nodes only, finds no more
when it selects no more. -/
theorem shrinks_of_select {rule : Rule} {severity : Severity} (known : rule.severity = .ok severity)
    (asks : List Node → Bool) {chosen : Graph → Node → Bool} {about : Node → Remark}
    (remarks : ∀ graph, rule.remarks context.config graph =
      if asks graph.nodes then .ok ((graph.nodes.filter (chosen graph)).map about) else .ok [])
    (sameNodes : wired.nodes = graph.nodes)
    (fewer : ∀ node, chosen wired node = true → chosen graph node = true) :
    Shrinks rule context graph wired := by
  have nothing : ∀ other : Graph, rule.remarks context.config other = .ok [] →
      rule.findings context other = .ok [] := by
    intro other noRemarks
    rw [Rule.findings_eq known, noRemarks]
    split <;> rfl
  by_cases isOn : rule.isEnabled context.config = true
  · by_cases asked : asks graph.nodes = true
    · have selected : ∀ other : Graph, other.nodes = graph.nodes →
          rule.remarks context.config other =
            .ok ((graph.nodes.filter (chosen other)).map about) := by
        intro other same
        rw [remarks, same, if_pos asked]
      refine ⟨_, _, Rule.findings_of_remarks known isOn (selected graph rfl),
        Rule.findings_of_remarks known isOn (selected wired sameNodes), ?_⟩
      exact (List.monotone_filter_right graph.nodes fewer).map _
    · have silent : ∀ other : Graph, other.nodes = graph.nodes →
          rule.remarks context.config other = .ok [] := by
        intro other same
        rw [remarks, same, if_neg asked]
      exact ⟨[], [], nothing graph (silent graph rfl), nothing wired (silent wired sameNodes), .slnil⟩
  · have off : ∀ other : Graph, rule.findings context other = .ok [] := by
      intro other
      rw [Rule.findings_eq known, if_neg isOn]
    exact ⟨[], [], off graph, off wired, .slnil⟩

theorem deadEnds_shrinks (extended : graph.Extends wired) :
    Shrinks deadEnds context graph wired := by
  refine @shrinks_of_select _ _ _ deadEnds _ rfl (fun nodes => decide (1 < nodes.length)) _ deadEnd ?_
    extended.sameNodes fun _ => isDeadEnd_of_extends extended
  intro other
  by_cases few : other.nodes.length ≤ 1
  · simp [deadEnds, few, Nat.not_lt.mpr few]
  · simp [deadEnds, few, Nat.not_le.mp few]

theorem unhandledErrorPath_shrinks (extended : graph.Extends wired) :
    Shrinks unhandledErrorPath context graph wired :=
  shrinks_of_select rfl (fun _ => true) (fun _ => unhandledErrorPath_remarks context.config)
    extended.sameNodes fun _ => lacksErrorBranch_of_extends extended

theorem idempotency_shrinks (extended : graph.Extends wired) {before after : List Finding}
    (found : idempotency.findings context graph = .ok before)
    (foundAgain : idempotency.findings context wired = .ok after) : after.Sublist before := by
  classical
  have sameIngress : HasIngress wired ↔ HasIngress graph := by
    simp only [HasIngress, extended.sameNodes]
  by_cases isOn : idempotency.isEnabled context.config = true
  · by_cases ingress : HasIngress graph
    · rw [idempotency_findings_eq isOn ingress found,
        idempotency_findings_eq isOn (sameIngress.mpr ingress) foundAgain, extended.sameNodes]
      refine (List.monotone_filter_right graph.nodes fun node chosen => ?_).map _
      simp only [decide_eq_true_eq] at chosen ⊢
      exact unguarded_of_extends extended chosen
    · rw [idempotency_findings_of_none (mt sameIngress.mp ingress)] at foundAgain
      cases foundAgain
      exact List.nil_sublist before
  · rw [Rule.findings_eq rfl, if_neg isOn] at foundAgain
    cases foundAgain
    exact List.nil_sublist before

/-- With the same nodes and an edge list that holds the old one in order, R3, R5 and R12 each keep part
of their findings, in order, and make no new ones, whenever they return for both.  They return; R3 does
when every key in the parameters of the nodes can be written. -/
theorem findings_sublist_of_added_edges (context : Context) (sameNodes : wired.nodes = graph.nodes)
    (added : graph.edges.Sublist wired.edges) :
    ∀ rule ∈ [idempotency, deadEnds, unhandledErrorPath],
      (∀ before after, rule.findings context graph = .ok before →
        rule.findings context wired = .ok after → after.Sublist before) ∧
      ((rule.id = "R3" → KeysSpellable graph) →
        ∃ before after, rule.findings context graph = .ok before ∧
          rule.findings context wired = .ok after ∧ after.Sublist before) := by
  have extended : graph.Extends wired := ⟨sameNodes, added.subset⟩
  simp only [List.forall_mem_cons, List.not_mem_nil, false_implies, implies_true, and_true]
  refine ⟨⟨fun _ _ => idempotency_shrinks extended, fun spellable => ?_⟩,
    ⟨(deadEnds_shrinks extended).sublist, fun _ => deadEnds_shrinks extended⟩,
    (unhandledErrorPath_shrinks extended).sublist, fun _ => unhandledErrorPath_shrinks extended⟩
  have spelled : KeysSpellable graph := spellable rfl
  obtain ⟨before, found⟩ := @exists_idempotency_findings context graph spelled
  obtain ⟨after, foundAgain⟩ := @exists_idempotency_findings context wired fun node listed =>
    spelled node (sameNodes ▸ listed)
  exact ⟨before, after, found, foundAgain, idempotency_shrinks extended found foundAgain⟩

end Findings

/-- A webhook, a loose step that mentions a key field, and a call without a way out of its failures. -/
def sparseGraph : Graph where
  nodes := [{ id := "hook", type := "webhook" },
    { id := "key", type := "set", params := some [(.str "eventId", .str "1")] },
    { id := "save", type := "postgres" }, { id := "call", type := "http" },
    { id := "handler", type := "stopAndError" }]
  edges := [⟨"hook", "save", .success⟩]

/-- The same nodes with further edges before and after the old one: the loose step leads to the change
of data by way of the call, and the call to the handler. -/
def wiredGraph : Graph where
  nodes := sparseGraph.nodes
  edges := [⟨"key", "call", .success⟩, ⟨"hook", "save", .success⟩, ⟨"call", "handler", .success⟩,
    ⟨"call", "save", .timeout⟩]

def gapsContext : Context where
  path := "flow.json"
  config := { rules := {
    idempotency := some ⟨true, ["eventId"]⟩, deadEnds := some ⟨true⟩,
    unhandledErrorPath := some ⟨true⟩ } }

/-- The ids that a rule reports in a graph, in order. -/
def reportedIds (rule : Rule) (context : Context) (graph : Graph) : Option (List (Option String)) :=
  (rule.findings context graph).toOption.map fun found => found.map Finding.nodeId

theorem findings_sublist_of_added_edges_sparse :
    sparseGraph.edges.Sublist wiredGraph.edges ∧
      (∀ rule ∈ [idempotency, deadEnds, unhandledErrorPath],
        ∃ before after, rule.findings gapsContext sparseGraph = .ok before ∧
          rule.findings gapsContext wiredGraph = .ok after ∧ after.Sublist before) ∧
      reportedIds idempotency gapsContext sparseGraph = some [some "save"] ∧
      reportedIds idempotency gapsContext wiredGraph = some [] ∧
      reportedIds deadEnds gapsContext sparseGraph = some [some "key", some "save", some "call"] ∧
      reportedIds deadEnds gapsContext wiredGraph = some [some "save"] ∧
      reportedIds unhandledErrorPath gapsContext sparseGraph = some [some "save", some "call"] ∧
      reportedIds unhandledErrorPath gapsContext wiredGraph = some [some "save"] := by
  have added : sparseGraph.edges.Sublist wiredGraph.edges := by decide
  have spellable : ∀ node ∈ sparseGraph.nodes, node.paramsValue.isSpellable = true := by
    decide +kernel
  refine ⟨added, fun rule listed => ?_, ?_⟩
  · refine (@findings_sublist_of_added_edges sparseGraph wiredGraph gapsContext rfl added rule
      listed).2 fun _ => ?_
    exact fun node member => Value.keysSpellable_of_isSpellable (spellable node member)
  · decide +kernel

end Rules

end WorkflowLint
