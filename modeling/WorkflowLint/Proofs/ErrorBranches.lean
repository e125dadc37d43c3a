import WorkflowLint.Proofs.GraphRegions
import WorkflowLint.Proofs.RuleEvaluation

/-!
Contract: error branches that join the main flow.

The main flow is what edges that are not followed on failure reach from nodes that nothing enters.
The search for an alert stops at nodes that an error edge and another edge enter.  A node of the
main flow is such a node exactly when an error edge enters it, so the search stops where an error
edge joins the main flow, and goes on where a branch joins it by an edge of another kind.
-/

set_option autoImplicit false

namespace WorkflowLint

namespace Graph

open Relation (ReflTransGen)

/-! ## The main flow -/

/-- An edge that is not followed on failure joins two ids. -/
def FlowsTo (graph : Graph) (source target : String) : Prop :=
  ∃ edge ∈ graph.edges, edge.isError = false ∧ edge.source = source ∧ edge.target = target

/-- A node that no edge enters. -/
def IsEntry (graph : Graph) (id : String) : Prop :=
  (∃ node ∈ graph.nodes, node.id = id) ∧ ∀ edge ∈ graph.edges, edge.target ≠ id

/-- Reached from an entry without following a failure. -/
def InMainFlow (graph : Graph) (id : String) : Prop :=
  ∃ entry, graph.IsEntry entry ∧ ReflTransGen graph.FlowsTo entry id

def EnteredOnError (graph : Graph) (id : String) : Prop :=
  ∃ edge ∈ graph.edges, edge.isError = true ∧ edge.target = id

/-- A node with this id sends a message to people or handles errors. -/
def Alerting (graph : Graph) (id : String) : Prop :=
  ∃ node ∈ graph.nodes, node.id = id ∧
    (isNotification node.type = true ∨ isErrorHandler node.type node.name = true)

/-- A path of edges leads from an id to one that alerts, and no id before the last is merged. -/
def AlertsBefore (graph : Graph) (merged : String → Prop) (start : String) : Prop :=
  ∃ last, graph.Alerting last ∧
    ReflTransGen (fun source target => ¬ merged source ∧ graph.Joins source target) start last

section Branches

variable {graph : Graph}

theorem isRejoin_iff {id : String} :
    graph.isRejoin id = true ↔
      graph.EnteredOnError id ∧ ∃ edge ∈ graph.edges, edge.isError = false ∧ edge.target = id := by
  have some (holds : Edge → Bool) : (graph.incoming id).any holds = true ↔
      ∃ edge ∈ graph.edges, holds edge = true ∧ edge.target = id := by
    simp only [List.any_eq_true, mem_incoming, and_assoc]
    exact exists_congr fun _ => and_congr_right fun _ => and_comm
  simp only [isRejoin, Bool.and_eq_true, some, Bool.not_eq_true']
  rfl

/-- In the main flow the search stops exactly where an error edge enters. -/
theorem InMainFlow.isRejoin_iff {id : String} (main : graph.InMainFlow id) :
    graph.isRejoin id = true ↔ graph.EnteredOnError id := by
  rw [Graph.isRejoin_iff]
  refine and_iff_left_of_imp ?_
  rintro ⟨edge, listed, _, isTarget⟩
  obtain ⟨entry, isEntry, flow⟩ := main
  -- The id is no entry, as an edge enters it, so the flow has a last edge.
  cases flow with
  | refl => exact absurd isTarget (isEntry.2 edge listed)
  | tail _ last =>
      obtain ⟨flowing, flowingListed, notError, _, enters⟩ := last
      exact ⟨flowing, flowingListed, notError, enters⟩

theorem AlertsBefore.mono {merged fewer : String → Prop} {start : String}
    (less : ∀ id, fewer id → merged id) (alert : graph.AlertsBefore merged start) :
    graph.AlertsBefore fewer start := by
  obtain ⟨last, alerting, path⟩ := alert
  refine ⟨last, alerting, ReflTransGen.mono ?_ start last path⟩
  intro source target step
  exact ⟨fun isFewer => step.1 (less source isFewer), step.2⟩

/-- Where error edges enter wherever a branch joins the main flow, a path that avoids the nodes of
the main flow that error edges enter avoids the whole main flow. -/
theorem AlertsBefore.of_merges
    (merges : ∀ edge ∈ graph.edges, ¬ graph.InMainFlow edge.source →
      graph.InMainFlow edge.target → graph.EnteredOnError edge.target)
    {start : String} (entered : graph.EnteredOnError start)
    (alert : graph.AlertsBefore (fun id => graph.InMainFlow id ∧ graph.EnteredOnError id) start) :
    graph.AlertsBefore graph.InMainFlow start := by
  obtain ⟨last, alerting, path⟩ := alert
  -- Along the path, an id of the main flow is one that an error edge enters.
  have along : ReflTransGen
      (fun source target => ¬ graph.InMainFlow source ∧ graph.Joins source target) start last ∧
        (graph.InMainFlow last → graph.EnteredOnError last) := by
    clear alerting
    induction path with
    | refl => exact ⟨.refl, fun _ => entered⟩
    | tail _ step inductionHypothesis =>
        obtain ⟨before, enteredIfMain⟩ := inductionHypothesis
        obtain ⟨avoided, edge, listed, rfl, rfl⟩ := step
        have notMain : ¬ graph.InMainFlow edge.source :=
          fun main => avoided ⟨main, enteredIfMain main⟩
        exact ⟨before.tail ⟨notMain, edge, listed, rfl, rfl⟩, merges edge listed notMain⟩
  exact ⟨last, alerting, along.1⟩

private theorem alerts_iff (distinct : (graph.nodes.map Node.id).Nodup) {id : String} :
    graph.alerts id = true ↔ graph.Alerting id := by
  unfold alerts Alerting
  constructor
  · intro alert
    split at alert
    next node found =>
      obtain ⟨listed, isId⟩ := mem_of_node?_eq_some found
      exact ⟨node, listed, isId, by simpa using alert⟩
    next => cases alert
  · rintro ⟨node, listed, isId, alert⟩
    rw [(node?_eq_some_iff distinct).mpr ⟨listed, isId⟩]
    simpa using alert

/-- The search for an alert follows the paths that leave no node where it stops. -/
theorem isHandled_iff_alertsBefore (distinct : (graph.nodes.map Node.id).Nodup)
    (sources : ∀ edge ∈ graph.edges, ∃ node ∈ graph.nodes, node.id = edge.source) {start : String} :
    graph.isHandled start = true ↔
      graph.AlertsBefore (fun id => graph.isRejoin id = true) start := by
  have step (source target : String) : target ∈ graph.onward source ↔
      ¬ graph.isRejoin source = true ∧ graph.Joins source target := by
    rw [← graph.mem_targets, onward]
    by_cases stops : graph.isRejoin source = true
    · simp [stops]
    · rw [and_iff_right stops]
      constructor
      · intro goesOn
        split at goesOn
        · exact goesOn
        · cases goesOn
      · intro isTarget
        obtain ⟨edge, listed, rfl, rfl⟩ := graph.mem_targets.mp isTarget
        obtain ⟨node, nodeListed, isSource⟩ := sources edge listed
        have found := (node?_eq_some_iff distinct).mpr ⟨nodeListed, isSource⟩
        simpa [found, stops] using isTarget
  rw [isHandled_iff, AlertsBefore]
  simp only [step, alerts_iff distinct]
  exact exists_congr fun _ => and_comm

end Branches

end Graph

namespace Rules

/-- An error edge that R7 does not report leads to an alert before its branch comes to a node of the
main flow that an error edge enters.  Where error edges enter wherever a branch joins the main flow,
it leads to an alert before its branch joins the main flow at all. -/
theorem unreported_branch_alerts {graph : Graph} {context : Context}
    (enabled : alertLogEnforcement.isEnabled context.config = true)
    (distinct : (graph.nodes.map Node.id).Nodup)
    (joined : ∀ edge ∈ graph.edges, (∃ node ∈ graph.nodes, node.id = edge.source) ∧
      ∃ node ∈ graph.nodes, node.id = edge.target) :
    ∃ reported : List Edge, reported.Sublist graph.edges ∧
      alertLogEnforcement.findings context graph =
        .ok (reported.map fun edge =>
          alertLogEnforcement.found .should context (silentBranch graph edge)) ∧
      ∀ edge ∈ graph.edges, edge.isError = true → edge ∉ reported →
        graph.AlertsBefore (fun id => graph.InMainFlow id ∧ graph.EnteredOnError id) edge.target ∧
        ((∀ other ∈ graph.edges, ¬ graph.InMainFlow other.source →
            graph.InMainFlow other.target → graph.EnteredOnError other.target) →
          graph.AlertsBefore graph.InMainFlow edge.target) := by
  refine ⟨graph.edges.filter (isSilent graph), List.filter_sublist, ?_, ?_⟩
  · rw [Rule.findings_eq rfl, if_pos enabled]
    simp [alertLogEnforcement]
  · intro edge listed isError unreported
    have handled : graph.isHandled edge.target = true := by
      simpa [isSilent, listed, isError] using unreported
    have searched := (Graph.isHandled_iff_alertsBefore distinct fun other member =>
      (joined other member).1).mp handled
    have alert := searched.mono fun id (stops : graph.InMainFlow id ∧ graph.EnteredOnError id) =>
      stops.1.isRejoin_iff.mpr stops.2
    exact ⟨alert, fun merges => alert.of_merges merges ⟨edge, listed, isError, rfl⟩⟩

/-- A call whose result goes to a merge, with further connections. -/
def callGraph (further : List Edge) : Graph where
  nodes := [{ id := "api", type := "n8n-nodes-base.httpRequest", name := some "Call API" },
    { id := "fmt", type := "n8n-nodes-base.set", name := some "Format Error" },
    { id := "merge", type := "n8n-nodes-base.merge", name := some "Combine" },
    { id := "s", type := "n8n-nodes-base.slack", name := some "Notify Team" }]
  edges := ⟨"api", "merge", .success⟩ :: further

def alertContext : Context where
  path := "flow.json"
  config := { rules := { alertLogEnforcement := some ⟨true⟩ } }

theorem callGraph_entry {further : List Edge} (free : ∀ edge ∈ further, edge.target ≠ "api") :
    (callGraph further).IsEntry "api" := by
  refine ⟨⟨_, List.mem_cons_self, rfl⟩, ?_⟩
  intro edge listed
  rcases List.mem_cons.mp listed with rfl | isFurther
  · decide
  · exact free edge isFurther

/-- The error branch has a step of its own and ends with a message. -/
def alertedGraph : Graph := callGraph [⟨"api", "fmt", .error⟩, ⟨"fmt", "s", .success⟩]

private theorem alertedGraph_mainFlow {id : String} (main : alertedGraph.InMainFlow id) :
    id = "api" ∨ id = "merge" := by
  obtain ⟨entry, ⟨⟨node, listed, rfl⟩, free⟩, flow⟩ := main
  have onlyEntry : ∀ node ∈ alertedGraph.nodes,
      (∀ edge ∈ alertedGraph.edges, edge.target ≠ node.id) → node.id = "api" := by decide
  have onward : ∀ edge ∈ alertedGraph.edges, edge.isError = false →
      edge.source = "api" ∨ edge.source = "merge" → edge.target = "merge" := by decide
  induction flow with
  | refl => exact .inl (onlyEntry node listed free)
  | tail _ step inductionHypothesis =>
      obtain ⟨edge, edgeListed, notError, rfl, rfl⟩ := step
      exact .inr (onward edge edgeListed notError inductionHypothesis)

/-- The branch ends with its message, and nothing of it is in the main flow. -/
theorem unreported_branch_alerts_inside :
    alertLogEnforcement.findings alertContext alertedGraph = .ok [] ∧
      ⟨"api", "fmt", .error⟩ ∈ alertedGraph.edges ∧
      alertedGraph.AlertsBefore alertedGraph.InMainFlow "fmt" := by
  obtain ⟨reported, _, found, alerts⟩ :=
    @unreported_branch_alerts alertedGraph alertContext rfl (by decide) (by decide)
  have silent : alertLogEnforcement.findings alertContext alertedGraph = .ok [] := rfl
  have empty : reported = [] := by simpa using found.symm.trans silent
  have listed : (⟨"api", "fmt", .error⟩ : Edge) ∈ alertedGraph.edges := by decide
  refine ⟨silent, listed, (alerts _ listed rfl (by simp [empty])).2 ?_⟩
  -- The main flow is entered from its own start only.
  have main : alertedGraph.InMainFlow "api" := ⟨"api", callGraph_entry (by decide), .refl⟩
  have sources : ∀ other ∈ alertedGraph.edges,
      other.target = "api" ∨ other.target = "merge" → other.source = "api" := by decide
  intro other otherListed notMain targetMain
  rw [sources other otherListed (alertedGraph_mainFlow targetMain)] at notMain
  exact absurd main notMain

/-- The error branch joins the main flow by an edge that is not followed on failure, and the only
message comes after that. -/
def mergedGraph : Graph :=
  callGraph [⟨"api", "fmt", .error⟩, ⟨"fmt", "merge", .success⟩, ⟨"merge", "s", .success⟩]

theorem merged_branch_unreported :
    alertLogEnforcement.isEnabled alertContext.config = true ∧
      (mergedGraph.nodes.map Node.id).Nodup ∧
      (∀ edge ∈ mergedGraph.edges, (∃ node ∈ mergedGraph.nodes, node.id = edge.source) ∧
        ∃ node ∈ mergedGraph.nodes, node.id = edge.target) ∧
      alertLogEnforcement.findings alertContext mergedGraph = .ok [] ∧
      ∃ edge ∈ mergedGraph.edges, edge.isError = true ∧
        ¬ mergedGraph.AlertsBefore mergedGraph.InMainFlow edge.target := by
  refine ⟨rfl, by decide, by decide, rfl, ⟨"api", "fmt", .error⟩, by decide, rfl, ?_⟩
  rintro ⟨last, alerting, path⟩
  have main : mergedGraph.InMainFlow "merge" :=
    ⟨"api", callGraph_entry (by decide), .single ⟨_, List.mem_cons_self, rfl, rfl, rfl⟩⟩
  have onlyMerge : ∀ edge ∈ mergedGraph.edges, edge.source = "fmt" → edge.target = "merge" := by
    decide
  have near : last = "fmt" ∨ last = "merge" := by
    clear alerting
    induction path with
    | refl => exact .inl rfl
    | tail _ step inductionHypothesis =>
        obtain ⟨notMain, edge, listed, isSource, rfl⟩ := step
        rcases inductionHypothesis with rfl | rfl
        · exact .inr (onlyMerge edge listed isSource)
        · exact absurd main notMain
  obtain ⟨node, listed, isLast, alerts⟩ := alerting
  have quiet : ∀ node ∈ mergedGraph.nodes, node.id = "fmt" ∨ node.id = "merge" →
      ¬ (isNotification node.type = true ∨ isErrorHandler node.type node.name = true) := by
    decide
  exact quiet node listed (isLast ▸ near) alerts

end Rules

end WorkflowLint
