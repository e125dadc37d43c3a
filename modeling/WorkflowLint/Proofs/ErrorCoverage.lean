import WorkflowLint.Proofs.ErrorBranches

/-!
Contract: which failures the rules on error branches leave unreported.

The search for an alert is described without the walk that carries it out: `AlertsAhead` is a path
to a node that alerts, on which no branch rejoins before the last id.  The description holds on
every graph, with cycles, repeated ids and edges that dangle.

Main statement: the rule that error branches tell somebody (R7) and the rule that nodes have error
branches (R12) never report the same id, and a node that can fail and that neither reports has a way
out of its failures, and all its error branches have an alert ahead.
-/

set_option autoImplicit false

namespace WorkflowLint

open Findings (Reports)

namespace Graph

open Relation (ReflTransGen)

/-- An error edge and another edge enter an id. -/
def Rejoins (graph : Graph) (id : String) : Prop :=
  graph.EnteredOnError id ∧ ∃ edge ∈ graph.edges, edge.isError = false ∧ edge.target = id

/-- The search for an alert goes on along an edge from an id that has a node and does not rejoin. -/
def SearchesOn (graph : Graph) (source target : String) : Prop :=
  (∃ node, graph.node? source = some node) ∧ ¬ graph.Rejoins source ∧ graph.Joins source target

/-- The search from an id comes to a node that sends a message to people or handles errors. -/
def AlertsAhead (graph : Graph) (start : String) : Prop :=
  ∃ last node, ReflTransGen graph.SearchesOn start last ∧ graph.node? last = some node ∧
    (isNotification node.type = true ∨ isErrorHandler node.type node.name = true)

section Search

variable {graph : Graph}

private theorem mem_onward_iff {source target : String} :
    target ∈ graph.onward source ↔ graph.SearchesOn source target := by
  have rejoins_iff : graph.isRejoin source = true ↔ graph.Rejoins source := isRejoin_iff
  have open_iff : ((graph.node? source).isSome && !graph.isRejoin source) = true ↔
      (∃ node, graph.node? source = some node) ∧ ¬ graph.Rejoins source := by
    rw [Bool.and_eq_true, Option.isSome_iff_exists, Bool.not_eq_true', ← rejoins_iff,
      Bool.not_eq_true]
  rw [onward, SearchesOn, ← and_assoc, ← open_iff, ← mem_targets]
  split
  next isOpen => rw [and_iff_right isOpen]
  next isClosed => simp [isClosed]

private theorem alerts_eq_true_iff {id : String} :
    graph.alerts id = true ↔ ∃ node, graph.node? id = some node ∧
      (isNotification node.type = true ∨ isErrorHandler node.type node.name = true) := by
  unfold alerts
  cases graph.node? id with
  | none => simp
  | some node => simp

/-- The walk that looks for an alert finds one exactly when there is one ahead. -/
theorem isHandled_iff_alertsAhead {start : String} :
    graph.isHandled start = true ↔ graph.AlertsAhead start := by
  simp only [isHandled_iff, mem_onward_iff, alerts_eq_true_iff, AlertsAhead, exists_and_left]

instance : DecidablePred graph.AlertsAhead :=
  fun _ => decidable_of_iff _ isHandled_iff_alertsAhead

end Search

end Graph

namespace Rules

section Coverage

variable {graph : Graph} {context : Context}

theorem catchesFailure_iff {edge : Edge} :
    catchesFailure graph edge = true ↔ edge.isError = true ∨
      ∃ target, graph.node? edge.target = some target ∧
        isErrorHandler target.type target.name = true := by
  rw [catchesFailure, Bool.or_eq_true, Option.any_eq_true]

private theorem isSilent_iff {edge : Edge} :
    isSilent graph edge = true ↔ edge.isError = true ∧ ¬ graph.AlertsAhead edge.target := by
  rw [isSilent, Bool.and_eq_true, Bool.not_eq_true', ← Graph.isHandled_iff_alertsAhead,
    Bool.not_eq_true]

theorem lacksErrorBranch_iff {node : Node} :
    lacksErrorBranch graph node = true ↔ isErrorProne node.type = true ∧
      ∀ edge ∈ graph.edges, edge.source = node.id → ¬ catchesFailure graph edge = true := by
  simp only [lacksErrorBranch, Bool.and_eq_true, Bool.not_eq_true', List.any_eq_false,
    Graph.mem_outgoing, and_imp]

theorem unhandledErrorPath_remarks (config : Config) :
    unhandledErrorPath.remarks config graph =
      .ok ((graph.nodes.filter (lacksErrorBranch graph)).map missingErrorBranch) :=
  Sequence.gather_select (lacksErrorBranch graph) missingErrorBranch graph.nodes

/-- R12 reports the ids of nodes that can fail and from which no edge catches a failure. -/
theorem unhandledErrorPath_reports (enabled : unhandledErrorPath.isEnabled context.config = true) :
    ∃ missing, unhandledErrorPath.findings context graph = .ok missing ∧
      ∀ id, Reports missing id ↔
        (∃ node ∈ graph.nodes, node.id = id ∧ isErrorProne node.type = true) ∧
          ∀ edge ∈ graph.edges, edge.source = id → ¬ catchesFailure graph edge = true := by
  refine ⟨_, Rule.findings_of_remarks rfl enabled (unhandledErrorPath_remarks _), ?_⟩
  intro id
  simp only [Findings.reports_found_iff, List.mem_filter, lacksErrorBranch_iff]
  constructor
  · rintro ⟨node, ⟨listed, prone, uncaught⟩, rfl⟩
    exact ⟨⟨node, listed, rfl, prone⟩, uncaught⟩
  · rintro ⟨⟨node, listed, rfl, prone⟩, uncaught⟩
    exact ⟨node, ⟨listed, prone, uncaught⟩, rfl⟩

/-- R7 reports the error edges without an alert ahead, in the order of the edges. -/
theorem alertLogEnforcement_findings
    (enabled : alertLogEnforcement.isEnabled context.config = true) :
    alertLogEnforcement.findings context graph =
      .ok ((graph.edges.filter fun edge =>
          edge.isError = true ∧ ¬ graph.AlertsAhead edge.target).map fun edge =>
        alertLogEnforcement.found .should context (silentBranch graph edge)) := by
  have sameEdges : graph.edges.filter (isSilent graph) = graph.edges.filter fun edge =>
      edge.isError = true ∧ ¬ graph.AlertsAhead edge.target := by
    refine List.filter_congr fun edge _ => ?_
    rw [Bool.eq_iff_iff, isSilent_iff, decide_eq_true_iff]
  rw [← sameEdges]
  exact Rule.findings_of_remarks rfl enabled rfl

/-- R7 has a finding for each error edge without an alert ahead, and R12 never reports the source of
an error edge.  A node that can fail and that neither reports has an error edge or an edge to a
handler, and an alert ahead on each of its error edges. -/
theorem error_paths_covered (alertOn : alertLogEnforcement.isEnabled context.config = true)
    (branchOn : unhandledErrorPath.isEnabled context.config = true) :
    ∃ silent missing, alertLogEnforcement.findings context graph = .ok silent ∧
      unhandledErrorPath.findings context graph = .ok missing ∧
      (∀ id, ¬ (Reports silent id ∧ Reports missing id)) ∧
      silent = (graph.edges.filter fun edge =>
          edge.isError = true ∧ ¬ graph.AlertsAhead edge.target).map
        (fun edge => alertLogEnforcement.found .should context (silentBranch graph edge)) ∧
      ∀ node ∈ graph.nodes, isErrorProne node.type = true →
        ¬ Reports silent node.id → ¬ Reports missing node.id →
          (∃ edge ∈ graph.edges, edge.source = node.id ∧
            (edge.isError = true ∨ ∃ target, graph.node? edge.target = some target ∧
              isErrorHandler target.type target.name = true)) ∧
          ∀ edge ∈ graph.edges, edge.source = node.id → edge.isError = true →
            graph.AlertsAhead edge.target := by
  obtain ⟨missing, missingFound, missing_iff⟩ := @unhandledErrorPath_reports graph context branchOn
  have silentFound := @alertLogEnforcement_findings graph context alertOn
  refine ⟨_, missing, silentFound, missingFound, ?_, rfl, ?_⟩
  · -- An error edge catches the failures of its source.
    rintro id ⟨inSilent, inMissing⟩
    obtain ⟨edge, chosen, isSource⟩ := Findings.reports_found_iff.mp inSilent
    obtain ⟨listed, silent⟩ := List.mem_filter.mp chosen
    have isError := (of_decide_eq_true silent).1
    exact ((missing_iff id).mp inMissing).2 edge listed isSource
      (catchesFailure_iff.mpr (.inl isError))
  · intro node listed prone notSilent notMissing
    constructor
    · by_contra uncaught
      refine notMissing ((missing_iff node.id).mpr ⟨⟨node, listed, rfl, prone⟩, ?_⟩)
      intro edge edgeListed isSource catches
      exact uncaught ⟨edge, edgeListed, isSource, catchesFailure_iff.mp catches⟩
    · intro edge edgeListed isSource isError
      by_contra noAlert
      have silent := decide_eq_true (And.intro isError noAlert)
      exact notSilent (Findings.reports_found_iff.mpr
        ⟨edge, List.mem_filter.mpr ⟨edgeListed, silent⟩, isSource⟩)

end Coverage

/-- Calls that fail in four ways: by two equal edges and a loop to a message, by an edge to nothing,
by an ordinary edge to a handler, and without an edge. -/
def failingGraph : Graph where
  nodes := [{ id := "first", type := "http" }, { id := "shape", type := "set" },
    { id := "message", type := "slack" }, { id := "second", type := "http" },
    { id := "third", type := "http" }, { id := "handler", type := "stopAndError" },
    { id := "fourth", type := "http" }]
  edges := [⟨"first", "shape", .error⟩, ⟨"first", "shape", .error⟩, ⟨"shape", "first", .success⟩,
    ⟨"first", "message", .success⟩, ⟨"message", "gone", .success⟩, ⟨"second", "gone", .error⟩,
    ⟨"third", "handler", .success⟩]

def coverageContext : Context where
  path := "flow.json"
  config :=
    { rules := { alertLogEnforcement := some ⟨true⟩, unhandledErrorPath := some ⟨true⟩ } }

theorem error_paths_covered_failing :
    ∃ silent missing, alertLogEnforcement.findings coverageContext failingGraph = .ok silent ∧
      unhandledErrorPath.findings coverageContext failingGraph = .ok missing ∧
      silent.map Finding.nodeId = [some "second"] ∧
      missing.map Finding.nodeId = [some "fourth"] ∧
      failingGraph.AlertsAhead "shape" := by
  obtain ⟨silent, missing, silentFound, missingFound, _, _, covered⟩ :=
    @error_paths_covered failingGraph coverageContext rfl rfl
  have silentSeen : alertLogEnforcement.findings coverageContext failingGraph = .ok [_] := rfl
  have missingSeen : unhandledErrorPath.findings coverageContext failingGraph = .ok [_] := rfl
  cases silentFound.symm.trans silentSeen
  cases missingFound.symm.trans missingSeen
  refine ⟨_, _, silentSeen, missingSeen, rfl, rfl, ?_⟩
  exact (covered { id := "first", type := "http" } List.mem_cons_self rfl (by decide) (by decide)).2
    ⟨"first", "shape", .error⟩ (by decide) rfl rfl

end Rules

end WorkflowLint
