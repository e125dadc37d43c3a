import WorkflowLint.Proofs.ErrorCoverage

/-!
Contract: the search for an alert, step by step, and the paths on which it finds one.

`Searches` is the loop that takes ids from a queue and stops at the first alert.  The model of the search
meets all ids first and looks for an alert among them; both give the same answer, as an id that is met
is taken from the queue sooner or later.

Main statement: the loop ends, and its answer is whether a path of edges between ids of nodes leads to
an alert without going on from an id where an error branch rejoins.
-/

set_option autoImplicit false

namespace WorkflowLint.Graph

open Relation (ReflTransGen)

/-! ## The loop -/

/-- The loop of the search, with the ids met, the ids still to look at, and the answer.  An alert ends
the loop before the ids behind it are looked at. -/
inductive Searches (graph : Graph) : List String → List String → Bool → Prop where
  | exhausted {met : List String} : Searches graph met [] false
  | found {met queue : List String} {id : String} (alert : graph.alerts id = true) :
      Searches graph met (id :: queue) true
  | goesOn {met queue : List String} {id : String} {answer : Bool} (quiet : graph.alerts id = false)
      (rest : Searches graph (met ++ fresh met (graph.onward id))
        (queue ++ fresh met (graph.onward id)) answer) :
      Searches graph met (id :: queue) answer

section Loop

variable {graph : Graph} {met queue : List String}

theorem Searches.unique {first second : Bool} (firstRun : Searches graph met queue first)
    (secondRun : Searches graph met queue second) : first = second := by
  induction firstRun with
  | exhausted =>
      cases secondRun
      rfl
  | found alert =>
      cases secondRun with
      | found => rfl
      | goesOn quiet =>
          rw [alert] at quiet
          cases quiet
  | goesOn quiet _ inductionHypothesis =>
      cases secondRun with
      | found alert =>
          rw [alert] at quiet
          cases quiet
      | goesOn _ rest => exact inductionHypothesis rest

/-- A walk only adds to the ids met. -/
theorem Drains.exists_append {next : String → List String} {result : List String}
    (run : Drains next met queue result) : ∃ added, result = met ++ added := by
  induction run with
  | done => exact ⟨[], (List.append_nil _).symm⟩
  | expand _ inductionHypothesis =>
      obtain ⟨added, rfl⟩ := inductionHypothesis
      exact ⟨_, List.append_assoc _ _ _⟩

/-- The search looks at the ids of the queue and at those that the walk adds to it. -/
theorem searches_of_drains {result : List String} (run : Drains graph.onward met queue result)
    {added : List String} (isResult : result = met ++ added) :
    Searches graph met queue ((queue ++ added).any graph.alerts) := by
  induction run generalizing added with
  | done =>
      have isNil : added = [] := List.self_eq_append_right.mp isResult
      subst isNil
      exact .exhausted
  | @expand met queue result id rest inductionHypothesis =>
      obtain ⟨later, isLater⟩ := rest.exists_append
      have parts : added = fresh met (graph.onward id) ++ later := by
        rw [isLater, List.append_assoc] at isResult
        exact (List.append_cancel_left isResult).symm
      cases alert : graph.alerts id with
      | true =>
          rw [List.cons_append, List.any_cons, alert, Bool.true_or]
          exact .found alert
      | false =>
          rw [List.cons_append, List.any_cons, alert, Bool.false_or, parts, ← List.append_assoc]
          exact .goesOn alert (inductionHypothesis isLater)

/-- The loop ends, and with the answer of the search. -/
theorem searches_iff {start : String} {answer : Bool} :
    Searches graph [start] [start] answer ↔ answer = graph.isHandled start := by
  have run : Drains graph.onward [start] [start] (graph.reach graph.onward start) :=
    reach_drains graph.onward_subset
  obtain ⟨added, isResult⟩ := run.exists_append
  have ends : Searches graph [start] [start] (graph.isHandled start) := by
    rw [isHandled, isResult]
    exact searches_of_drains run isResult
  constructor
  · exact fun search => search.unique ends
  · rintro rfl
    exact ends

end Loop

/-! ## Paths -/

/-- A path of edges from an id to an alert, through ids of nodes, that does not go on where an error
branch rejoins. -/
structure IsAlertPath (graph : Graph) (start : String) (path : List String) : Prop where
  begins : path.head? = some start
  joined : path.IsChain graph.Joins
  known : ∀ id ∈ path, ∃ node ∈ graph.nodes, node.id = id
  unjoined : ∀ id ∈ path.dropLast, ¬ graph.Rejoins id
  alerts : ∃ last node, path.getLast? = some last ∧ graph.node? last = some node ∧
    (isNotification node.type = true ∨ isErrorHandler node.type node.name = true)

section Paths

variable {graph : Graph}

theorem exists_node?_iff {id : String} :
    (∃ node, graph.node? id = some node) ↔ ∃ node ∈ graph.nodes, node.id = id := by
  constructor
  · rintro ⟨node, found⟩
    exact ⟨node, mem_of_node?_eq_some found⟩
  · rintro ⟨node, listed, isId⟩
    cases found : graph.node? id with
    | none => exact absurd isId (node?_eq_none_iff.mp found node listed)
    | some first => exact ⟨first, rfl⟩

/-- A step of the search in front of a path. -/
theorem IsAlertPath.cons {source target : String} {path : List String}
    (step : graph.SearchesOn source target) (rest : graph.IsAlertPath target path) :
    graph.IsAlertPath source (source :: path) := by
  obtain ⟨tail, rfl⟩ : ∃ tail, path = target :: tail := List.head?_eq_some_iff.mp rest.begins
  obtain ⟨known, unjoined, joins⟩ := step
  exact {
    begins := rfl
    joined := List.isChain_cons_cons.mpr ⟨joins, rest.joined⟩
    known := List.forall_mem_cons.mpr ⟨exists_node?_iff.mp known, rest.known⟩
    unjoined := List.forall_mem_cons.mpr ⟨unjoined, rest.unjoined⟩
    alerts := rest.alerts }

private theorem exists_isAlertPath {start last : String} {node : Node}
    (steps : ReflTransGen graph.SearchesOn start last) (found : graph.node? last = some node)
    (alert : isNotification node.type = true ∨ isErrorHandler node.type node.name = true) :
    ∃ path, graph.IsAlertPath start path := by
  induction steps using ReflTransGen.head_induction_on with
  | refl =>
      refine ⟨[last], rfl, List.IsChain.singleton last, ?_, by simp, last, node, rfl, found, alert⟩
      exact List.forall_mem_singleton.mpr (exists_node?_iff.mp ⟨node, found⟩)
  | head step _ inductionHypothesis =>
      obtain ⟨path, isPath⟩ := inductionHypothesis
      exact ⟨_, isPath.cons step⟩

private theorem IsAlertPath.alertsAhead {start : String} {path : List String}
    (isPath : graph.IsAlertPath start path) : graph.AlertsAhead start := by
  induction path generalizing start with
  | nil => cases isPath.begins
  | cons first rest inductionHypothesis =>
      cases isPath.begins
      cases rest with
      | nil =>
          obtain ⟨last, node, isLast, found, alert⟩ := isPath.alerts
          cases isLast
          exact ⟨first, node, .refl, found, alert⟩
      | cons second others =>
          obtain ⟨known, othersKnown⟩ := List.forall_mem_cons.mp isPath.known
          obtain ⟨joins, othersJoined⟩ := List.isChain_cons_cons.mp isPath.joined
          obtain ⟨unjoined, othersUnjoined⟩ := List.forall_mem_cons.mp isPath.unjoined
          obtain ⟨last, node, steps, found, alert⟩ :=
            inductionHypothesis ⟨rfl, othersJoined, othersKnown, othersUnjoined, isPath.alerts⟩
          exact ⟨last, node, steps.head ⟨exists_node?_iff.mpr known, unjoined, joins⟩, found, alert⟩

/-- The loop that looks for an alert ends on every graph and from every id.  It answers yes exactly when
a path of edges leads from the id through ids of nodes to a node that sends a message to people or
handles errors, and no id before the last is one where an error branch rejoins. -/
theorem search_finds_alert_paths (graph : Graph) (start : String) :
    (∀ answer, Searches graph [start] [start] answer ↔ answer = graph.isHandled start) ∧
      (graph.isHandled start = true ↔ ∃ path, graph.IsAlertPath start path) := by
  refine ⟨fun _ => searches_iff, ?_⟩
  rw [isHandled_iff_alertsAhead]
  constructor
  · rintro ⟨last, node, steps, found, alert⟩
    exact exists_isAlertPath steps found alert
  · rintro ⟨path, isPath⟩
    exact isPath.alertsAhead

end Paths

end WorkflowLint.Graph
