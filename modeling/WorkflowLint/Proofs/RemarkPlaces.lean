import WorkflowLint.Proofs.RuleEvaluation

/-!
Contract: where the remarks of each rule stand.

A rule on nodes goes through the nodes in order and makes at most one remark on each.  The rule on long
loops makes up to two on each, and the rule on error branches goes through the error edges.
-/

set_option autoImplicit false

namespace WorkflowLint

open Sequence (gather gather_cons_eq_ok_iff)

namespace Rules

/-- The remarks, if there are any, stand at the ids, in order. -/
def StandAt (ids : List String) (remarks : Except RuleFault (List Remark)) : Prop :=
  ∀ own, remarks = .ok own → (own.map Remark.nodeId).Sublist ids

section StandAt

variable {ids : List String}

theorem standAt_ok {own : List Remark} (stand : (own.map Remark.nodeId).Sublist ids) :
    StandAt ids (.ok own) := by
  intro other equal
  cases equal
  exact stand

theorem standAt_none (ids : List String) : StandAt ids (.ok []) :=
  standAt_ok (List.nil_sublist ids)

theorem standAt_one {id : String} {remark : Remark} (isOwn : remark.nodeId = id) :
    StandAt [id] (.ok [remark]) := by
  apply standAt_ok
  rw [List.map_singleton, isOwn]

theorem standAt_if {id : String} {chosen : Bool} {remark : Remark} (isOwn : remark.nodeId = id) :
    StandAt [id] (.ok (if chosen then [remark] else [])) := by
  cases chosen with
  | true => exact standAt_one isOwn
  | false => exact standAt_none [id]

theorem standAt_option {α : Type} {id : String} (found : Option α) {about : α → Remark}
    (isOwn : ∀ item, (about item).nodeId = id) : StandAt [id] (.ok (found.toList.map about)) := by
  cases found with
  | none => exact standAt_none [id]
  | some item => exact standAt_one (isOwn item)

/-- Remarks made item by item stand at the ids of the items, one after another. -/
theorem standAt_gather {α : Type} {step : α → Except RuleFault (List Remark)}
    {ids : α → List String} {items : List α} (each : ∀ item ∈ items, StandAt (ids item) (step item)) :
    StandAt (items.flatMap ids) (gather step items) := by
  induction items with
  | nil => exact standAt_none []
  | cons item rest inductionHypothesis =>
      obtain ⟨first, others⟩ := List.forall_mem_cons.mp each
      intro all gathered
      obtain ⟨own, later, stepped, restGathered, rfl⟩ := gather_cons_eq_ok_iff.mp gathered
      rw [List.map_append, List.flatMap_cons]
      exact (first own stepped).append (inductionHypothesis others later restGathered)

/-- Remarks on chosen items stand at the ids of the items. -/
theorem standAt_select {α : Type} {chosen : α → Bool} {about : α → Remark} {id : α → String}
    (isOwn : ∀ item, (about item).nodeId = id item) (items : List α) :
    StandAt (items.map id) (.ok ((items.filter chosen).map about)) := by
  apply standAt_ok
  have sameIds : ((items.filter chosen).map about).map Remark.nodeId =
      (items.filter chosen).map id := by
    rw [List.map_map]
    exact List.map_congr_left fun item _ => isOwn item
  rw [sameIds]
  exact List.filter_sublist.map id

end StandAt

/-- The ids at which the remarks of a rule can stand. -/
def places (id : String) (graph : Graph) : List String :=
  if id = "R6" then graph.nodes.flatMap fun node => [node.id, node.id]
  else if id = "R7" then (graph.edges.filter Edge.isError).map Edge.source
  else graph.nodes.map Node.id

theorem standAt_perNode {rule : Rule} {config : Config} {graph : Graph}
    {check : Node → Except RuleFault (List Remark)} (notR6 : rule.id ≠ "R6")
    (notR7 : rule.id ≠ "R7") (remarks : rule.remarks config graph = gather check graph.nodes)
    (each : ∀ node, StandAt [node.id] (check node)) :
    StandAt (places rule.id graph) (rule.remarks config graph) := by
  rw [places, if_neg notR6, if_neg notR7, remarks, List.map_eq_flatMap]
  exact standAt_gather fun node _ => each node

theorem denylist_standAt (entries : List String) (message : Node → String → String)
    (details : String) (node : Node) :
    StandAt [node.id] (Rule.denylistRemarks entries message details node) := by
  intro own made
  obtain ⟨patterns, _, equal⟩ := Sequence.bind_eq_ok_iff.mp made
  cases equal
  refine standAt_option (Rule.listedLiteral? patterns node) ?_ _ rfl
  exact fun _ => rfl

private theorem retryAfter_standAt (node : Node) :
    StandAt [node.id] (if retriesFreely node then
      (namesRetryAfter node).map fun named => if named then [] else [ignoredWait node]
    else .ok []) := by
  split
  · cases namesRetryAfter node with
    | error fault => exact fun _ failed => nomatch failed
    | ok named =>
        cases named with
        | true => exact standAt_none _
        | false => exact standAt_one rfl
  · exact standAt_none _

theorem limit_standAt {id : String} {passed : Bool} {limit : Option Int}
    {remark : String → Remark} (isOwn : ∀ shown, (remark shown).nodeId = id) :
    StandAt [id] (limitRemarks passed limit remark) := by
  unfold limitRemarks
  split
  · intro own made
    obtain ⟨shown, _, equal⟩ := Sequence.map_eq_ok_iff.mp made
    cases equal
    exact standAt_one (isOwn shown) _ rfl
  · exact standAt_none _

private theorem guard_standAt (candidates : List String) (graph : Graph) (node : Node) :
    StandAt [node.id] (guardRemarks candidates graph node) := by
  intro own made
  obtain ⟨lacks, _, equal⟩ := Sequence.bind_eq_ok_iff.mp made
  exact standAt_if rfl own equal

/-- A loop has at most one remark on its iterations and one on its timeout. -/
theorem loop_standAt (block : LongRunningBlock) (node : Node) :
    StandAt [node.id, node.id] (loopRemarks block node) := by
  intro own made
  obtain ⟨first, firstMade, others⟩ := Sequence.bind_eq_ok_iff.mp made
  obtain ⟨second, secondMade, equal⟩ := Sequence.bind_eq_ok_iff.mp others
  cases equal
  have firstStands : StandAt [node.id] (iterationRemarks block.maxIterations node) := by
    intro own made
    obtain ⟨iterations, _, limited⟩ := Sequence.bind_eq_ok_iff.mp made
    refine limit_standAt ?_ own limited
    exact fun _ => rfl
  have secondStands : StandAt [node.id] (timeoutRemarks block.timeoutMs node) := by
    unfold timeoutRemarks
    split
    · exact standAt_none _
    · intro own made
      obtain ⟨timeout, _, limited⟩ := Sequence.bind_eq_ok_iff.mp made
      cases timeout with
      | none => exact standAt_none _ own limited
      | some number =>
          refine limit_standAt ?_ own limited
          exact fun _ => rfl
  rw [List.map_append]
  exact (firstStands first firstMade).append (secondStands second secondMade)

private theorem longRunning_standAt (config : Config) (graph : Graph) :
    StandAt (places "R6" graph) (longRunning.remarks config graph) := by
  refine standAt_gather fun node _ => ?_
  dsimp only
  split
  · split
    · exact loop_standAt _ node
    · exact standAt_none _
  · exact standAt_none _

private theorem alertLogEnforcement_standAt (config : Config) (graph : Graph) :
    StandAt (places "R7" graph) (alertLogEnforcement.remarks config graph) := by
  -- Silent edges are error edges, so they are chosen among these.
  have errorsOnly : graph.edges.filter (isSilent graph) =
      (graph.edges.filter Edge.isError).filter fun edge => !graph.isHandled edge.target := by
    rw [List.filter_filter]
    exact List.filter_congr fun edge _ => Bool.and_comm _ _
  have remarks : alertLogEnforcement.remarks config graph =
      .ok ((graph.edges.filter (isSilent graph)).map (silentBranch graph)) := rfl
  rw [remarks, errorsOnly]
  exact standAt_select (fun _ => rfl) _

/-- The remarks of a rule of a run stand at its places. -/
theorem standAt_of_builtin (config : Config) (graph : Graph) : ∀ rule ∈ builtin,
    StandAt (places rule.id graph) (rule.remarks config graph) := by
  simp only [builtin, List.forall_mem_cons, List.not_mem_nil, false_implies, implies_true, and_true]
  refine ⟨?_, ?_, ?_, ?_, ?_, longRunning_standAt config graph,
    alertLogEnforcement_standAt config graph, ?_, ?_, ?_, ?_, ?_, ?_, ?_⟩
  · exact standAt_perNode (by decide) (by decide) rfl fun node => standAt_if rfl
  · exact standAt_perNode (by decide) (by decide) rfl fun node => standAt_if rfl
  · dsimp only [idempotency]
    split
    · rw [places, if_neg (by decide), if_neg (by decide), List.map_eq_flatMap]
      exact standAt_gather fun node _ => guard_standAt _ graph node
    · exact standAt_none _
  · exact standAt_perNode (by decide) (by decide) rfl fun node => denylist_standAt _ _ _ node
  · dsimp only [deadEnds]
    split
    · exact standAt_none _
    · exact standAt_select (fun _ => rfl) graph.nodes
  · exact standAt_select (fun _ => rfl) graph.nodes
  · exact standAt_perNode (by decide) (by decide) rfl fun node => denylist_standAt _ _ _ node
  · exact standAt_perNode (by decide) (by decide) rfl fun node => standAt_if rfl
  · exact standAt_perNode (by decide) (by decide) rfl fun node => standAt_option _ fun _ => rfl
  · exact standAt_perNode (by decide) (by decide) rfl fun node => standAt_if rfl
  · exact standAt_select (fun _ => rfl) graph.nodes
  · exact standAt_perNode (by decide) (by decide) rfl retryAfter_standAt

/-- The findings of a rule of a run are made of remarks that stand at its places. -/
theorem findings_of_builtin {rule : Rule} (listed : rule ∈ builtin) {context : Context}
    {graph : Graph} {own : List Finding} (found : rule.findings context graph = .ok own) :
    ∃ (info : RuleInfo) (remarks : List Remark), RuleInfo.find? rule.id = some info ∧
      own = remarks.map (rule.found info.severity context) ∧
      (remarks.map Remark.nodeId).Sublist (places rule.id graph) := by
  obtain ⟨info, catalogued, known⟩ := Rule.info_of_builtin listed
  rw [Rule.findings_eq known] at found
  split at found
  · obtain ⟨remarks, made, equal⟩ := Sequence.map_eq_ok_iff.mp found
    exact ⟨info, remarks, catalogued, equal.symm,
      standAt_of_builtin context.config graph rule listed remarks made⟩
  · cases found
    exact ⟨info, [], catalogued, rfl, List.nil_sublist _⟩

end Rules

end WorkflowLint
