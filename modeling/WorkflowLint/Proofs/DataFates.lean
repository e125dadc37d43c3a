import WorkflowLint.Proofs.RuleLocality

/-!
Contract: what becomes of the data of a node.

The rule against dead ends (R5) and the rule against unused data (R8) go by the id of a node, and
both spare nodes that are legitimate ends.  Main statement: in a graph of several nodes every other
node has exactly one fate: it is a dead end, its data is unused, or its data reaches a consumer
elsewhere.
-/

set_option autoImplicit false

namespace WorkflowLint

open Findings (Reports)

/-- A path to another id starts with an edge. -/
theorem Graph.outgoing_ne_nil_of_leads {graph : Graph} {start last : String}
    (path : graph.Leads start last) (differs : last ≠ start) : graph.outgoing start ≠ [] := by
  rcases Relation.ReflTransGen.cases_head path with same | ⟨middle, joins, _⟩
  · exact absurd same.symm differs
  · obtain ⟨edge, listed, isSource, _⟩ := joins
    exact List.ne_nil_of_mem (Graph.mem_outgoing.mpr ⟨listed, isSource⟩)

namespace Rules

/-- What becomes of the data of a node. -/
inductive Fate where
  | deadEnd
  | unused
  | consumed

/-- A node has a fate by what the two rules report and by where its data goes. -/
def Fate.IsOf (graph : Graph) (dead unused : List Finding) (node : Node) : Fate → Prop
  | .deadEnd => Reports dead node.id
  | .unused => Reports unused node.id
  | .consumed =>
      ∃ consumer ∈ graph.nodes, graph.Leads node.id consumer.id ∧ consumer.id ≠ node.id ∧
        isConsumer consumer.type = true

section Fates

variable {graph : Graph} {context : Context}

/-- A rule that spares ends, and asks of other nodes only something about their ids, reports the id
of a node that is no end exactly when that holds of the id. -/
theorem reports_iff_of_id {rule : Rule} {severity : Severity} {chosen : Node → Bool}
    {about : Node → Remark} (holds : String → Prop)
    (about_id : ∀ node, (about node).nodeId = node.id)
    (chosen_iff : ∀ node : Node,
      chosen node = true ↔ isTerminal node.type node.name = false ∧ holds node.id)
    {node : Node} (listed : node ∈ graph.nodes)
    (goesOn : isTerminal node.type node.name = false) :
    Reports ((graph.nodes.filter chosen).map fun node => rule.found severity context (about node))
        node.id ↔ holds node.id := by
  simp only [Findings.reports_found_iff, List.mem_filter, about_id, chosen_iff]
  constructor
  · -- The finding may be about another node, but that one has the same id.
    rintro ⟨other, ⟨_, _, otherHolds⟩, sameId⟩
    exact sameId ▸ otherHolds
  · intro nodeHolds
    exact ⟨node, ⟨listed, goesOn, nodeHolds⟩, rfl⟩

private theorem deadEnds_reports (enabled : deadEnds.isEnabled context.config = true)
    (several : 2 ≤ graph.nodes.length) :
    ∃ dead, deadEnds.findings context graph = .ok dead ∧
      ∀ node ∈ graph.nodes, isTerminal node.type node.name = false →
        (Reports dead node.id ↔ graph.outgoing node.id = []) := by
  have remarked : deadEnds.remarks context.config graph =
      .ok ((graph.nodes.filter (isDeadEnd graph)).map deadEnd) := by
    have notFew : ¬ graph.nodes.length ≤ 1 := by omega
    simp [deadEnds, notFew]
  refine ⟨_, Rule.findings_of_remarks rfl enabled remarked, ?_⟩
  intro node listed goesOn
  apply reports_iff_of_id (fun id => graph.outgoing id = []) (fun _ => rfl) _ listed goesOn
  intro other
  rw [isDeadEnd, Bool.and_eq_true, List.isEmpty_iff, Bool.not_eq_true', and_comm]

private theorem unusedData_reports (enabled : unusedData.isEnabled context.config = true) :
    ∃ unused, unusedData.findings context graph = .ok unused ∧
      ∀ node ∈ graph.nodes, isTerminal node.type node.name = false →
        (Reports unused node.id ↔
          graph.outgoing node.id ≠ [] ∧ ¬ reachesConsumer graph node.id = true) := by
  refine ⟨_, Rule.findings_of_remarks rfl enabled rfl, ?_⟩
  intro node listed goesOn
  apply reports_iff_of_id
    (fun id => graph.outgoing id ≠ [] ∧ ¬ reachesConsumer graph id = true) (fun _ => rfl) _ listed
    goesOn
  intro other
  simp [isUnused, and_assoc]

/-- Every node that is no legitimate end has exactly one fate: R5 reports its id, R8 reports its id,
or a consumer with another id is reached from it. -/
theorem exists_unique_fate (several : 2 ≤ graph.nodes.length)
    (deadOn : deadEnds.isEnabled context.config = true)
    (unusedOn : unusedData.isEnabled context.config = true) :
    ∃ dead unused, deadEnds.findings context graph = .ok dead ∧
      unusedData.findings context graph = .ok unused ∧
      ∀ node ∈ graph.nodes, isTerminal node.type node.name = false →
        ∃! fate : Fate, fate.IsOf graph dead unused node := by
  obtain ⟨dead, deadFound, dead_iff⟩ := deadEnds_reports deadOn several
  obtain ⟨unused, unusedFound, unused_iff⟩ := @unusedData_reports graph context unusedOn
  refine ⟨dead, unused, deadFound, unusedFound, ?_⟩
  intro node listed goesOn
  have isDead := dead_iff node listed goesOn
  have isUnused := unused_iff node listed goesOn
  have isConsumed : Fate.consumed.IsOf graph dead unused node ↔
      reachesConsumer graph node.id = true := reachesConsumer_iff.symm
  -- Where nothing leaves the node, no other id is reached from it.
  have continues : reachesConsumer graph node.id = true → graph.outgoing node.id ≠ [] := by
    intro reaches
    obtain ⟨consumer, _, path, differs, _⟩ := reachesConsumer_iff.mp reaches
    exact Graph.outgoing_ne_nil_of_leads path differs
  by_cases ends : graph.outgoing node.id = []
  · refine ⟨.deadEnd, isDead.mpr ends, ?_⟩
    rintro (_ | _ | _) isOf
    · rfl
    · exact absurd ends (isUnused.mp isOf).1
    · exact absurd ends (continues (isConsumed.mp isOf))
  · by_cases reaches : reachesConsumer graph node.id = true
    · refine ⟨.consumed, isConsumed.mpr reaches, ?_⟩
      rintro (_ | _ | _) isOf
      · exact absurd (isDead.mp isOf) ends
      · exact absurd reaches (isUnused.mp isOf).2
      · rfl
    · refine ⟨.unused, isUnused.mpr ⟨ends, reaches⟩, ?_⟩
      rintro (_ | _ | _) isOf
      · exact absurd (isDead.mp isOf) ends
      · rfl
      · exact absurd (isConsumed.mp isOf) reaches

end Fates

/-- A call that feeds itself through a step of its own, a step before a call, and a loose step. -/
def loopedGraph : Graph where
  nodes := [{ id := "call", type := "http" }, { id := "shape", type := "set" },
    { id := "before", type := "set" }, { id := "loose", type := "set" }]
  edges := [⟨"call", "shape", .success⟩, ⟨"shape", "call", .error⟩, ⟨"before", "gone", .success⟩,
    ⟨"before", "call", .success⟩]

def fatesContext : Context where
  path := "flow.json"
  config := { rules := { deadEnds := some ⟨true⟩, unusedData := some ⟨true⟩ } }

/-- The call reaches no consumer but itself, so its data is unused; all others have another fate. -/
theorem exists_unique_fate_looped :
    ∃ dead unused, deadEnds.findings fatesContext loopedGraph = .ok dead ∧
      unusedData.findings fatesContext loopedGraph = .ok unused ∧
      dead.map Finding.nodeId = [some "loose"] ∧ unused.map Finding.nodeId = [some "call"] ∧
      ∀ node ∈ loopedGraph.nodes, ∃! fate : Fate, fate.IsOf loopedGraph dead unused node := by
  obtain ⟨dead, unused, deadFound, unusedFound, fates⟩ :=
    @exists_unique_fate loopedGraph fatesContext (by decide) rfl rfl
  have noEnds : ∀ node ∈ loopedGraph.nodes, isTerminal node.type node.name = false := by decide
  have deadSeen : deadEnds.findings fatesContext loopedGraph = .ok [_] := rfl
  have unusedSeen : unusedData.findings fatesContext loopedGraph = .ok [_] := rfl
  cases deadFound.symm.trans deadSeen
  cases unusedFound.symm.trans unusedSeen
  refine ⟨_, _, deadSeen, unusedSeen, rfl, rfl, ?_⟩
  intro node listed
  exact fates node listed (noEnds node listed)

end Rules

end WorkflowLint
