import WorkflowLint.Proofs.MentionSearch
import WorkflowLint.Proofs.RuleLocality

/-!
Contract: which changes of data the rule against repetition (R3) reports.

A change of data is guarded when a node that leads to it, or the node itself, mentions one of the
configured key fields in its parameters.  The rule looks at nodes only in graphs with an ingress.  It
asks for the ingress of the graph and not of the node, so it also reports changes of data to which no
ingress leads.  It can stop only at a node with a key that cannot be written.
-/

set_option autoImplicit false

namespace WorkflowLint.Rules

open Findings (Reports)
open Sequence (Ends exists_gather_iff gather)

/-- Steps that can fail select items otherwise, and say one thing about each. -/
theorem ends_gather_select {ε α β : Type} {allowed : ε → Prop} {step : α → Except ε (List β)}
    {chosen : α → Bool} {about : α → β} {items : List α}
    (each : ∀ item ∈ items, Ends allowed (fun own => own = if chosen item then [about item] else [])
      (step item)) :
    Ends allowed (fun all => all = (items.filter chosen).map about) (gather step items) := by
  cases gathered : gather step items with
  | ok all =>
      refine Sequence.eq_select_of_gather (fun item listed own stepped => ?_) gathered
      have selects := each item listed
      rw [stepped] at selects
      exact selects
  | error fault =>
      have fails : Sequence.FailsOnly allowed (gather step items) := by
        refine (Sequence.FailsOnly.mapM fun item listed fault failed => ?_).map List.flatten
        have allows := each item listed
        rw [failed] at allows
        exact allows
      exact fails fault gathered

/-- A node that changes data, and no node that leads to it mentions one of the key fields. -/
def Unguarded (candidates : List String) (graph : Graph) (node : Node) : Prop :=
  isMutation node.type = true ∧
    ¬ ∃ guard ∈ graph.nodes, graph.Leads guard.id node.id ∧ guard.Mentions candidates

def HasIngress (graph : Graph) : Prop := ∃ node ∈ graph.nodes, isIngress node.type = true

/-- The key fields under a configuration. -/
def keyFields (config : Config) : List String :=
  (config.rules.idempotency.map IdempotencyBlock.keyFieldCandidates).getD []

/-- Every key in the parameters of a node can be written. -/
def KeysSpellable (graph : Graph) : Prop := ∀ node ∈ graph.nodes, node.paramsValue.KeysSpellable

section Guards

variable {candidates : List String} {graph : Graph}

private theorem isGuarded_ends (candidates : List String) (graph : Graph) (id : String) :
    Ends (fun _ => ¬ KeysSpellable graph)
      (fun answer => answer = true ↔
        ∃ guard ∈ graph.nodes, graph.Leads guard.id id ∧ guard.Mentions candidates)
      (isGuarded candidates graph id) := by
  refine Ends.anyM fun node listed => ?_
  have leads_iff : (graph.ancestors id).contains node.id = true ↔ graph.Leads node.id id := by
    rw [List.contains_iff_mem, Graph.mem_ancestors_iff]
  have found := Value.mentions_ends node.paramsValue_cases candidates
  split
  · next leads =>
      cases outcome : node.paramsValue.mentions candidates with
      | error fault =>
          rw [outcome] at found
          exact fun spellable => found.2 (spellable node listed)
      | ok answer =>
          rw [outcome] at found
          exact found.trans (and_iff_right (leads_iff.mp leads)).symm
  · next apart => exact iff_of_false Bool.false_ne_true fun leads => apart (leads_iff.mpr leads.1)

private theorem lacksGuard_ends (candidates : List String) (graph : Graph) (node : Node) :
    Ends (fun _ => ¬ KeysSpellable graph)
      (fun answer => answer = true ↔ Unguarded candidates graph node)
      (lacksGuard candidates graph node) := by
  unfold lacksGuard
  split
  · next mutates =>
      refine (isGuarded_ends candidates graph node.id).map fun answer isAnswer => ?_
      rw [Bool.not_eq_true', ← Bool.not_eq_true, isAnswer, Unguarded, and_iff_right mutates]
  · next keeps => exact iff_of_false Bool.false_ne_true fun unguarded => keeps unguarded.1

open scoped Classical in
/-- A node has its remark when it is an unguarded change of data. -/
theorem guardRemarks_ends (candidates : List String) (graph : Graph) (node : Node) :
    Ends (fun _ => ¬ KeysSpellable graph)
      (fun own => own = if decide (Unguarded candidates graph node) then
        [missingGuard candidates node] else [])
      (guardRemarks candidates graph node) := by
  refine (lacksGuard_ends candidates graph node).bind fun answer isAnswer => ?_
  show (if answer = true then _ else _) = _
  simp only [isAnswer, decide_eq_true_eq]

end Guards

section Remarks

variable {config : Config} {graph : Graph}

theorem any_isIngress_iff :
    (graph.nodes.any fun node => isIngress node.type) = true ↔ HasIngress graph :=
  List.any_eq_true

private theorem idempotency_remarks_of_ingress (ingress : HasIngress graph) :
    idempotency.remarks config graph = gather (guardRemarks (keyFields config) graph) graph.nodes :=
  if_pos (any_isIngress_iff.mpr ingress)

theorem idempotency_remarks_of_none (none : ¬ HasIngress graph) :
    idempotency.remarks config graph = .ok [] :=
  if_neg (mt any_isIngress_iff.mp none)

open scoped Classical in
/-- In a graph with an ingress, R3 remarks on the unguarded changes of data. -/
theorem idempotency_remarks_ends (ingress : HasIngress graph) :
    Ends (fun _ => ¬ KeysSpellable graph)
      (fun remarks => remarks =
        (graph.nodes.filter fun node => Unguarded (keyFields config) graph node).map
          (missingGuard (keyFields config)))
      (idempotency.remarks config graph) := by
  rw [idempotency_remarks_of_ingress ingress]
  exact ends_gather_select fun node _ => guardRemarks_ends (keyFields config) graph node

theorem exists_idempotency_remarks (spellable : KeysSpellable graph) :
    ∃ remarks, idempotency.remarks config graph = .ok remarks := by
  by_cases ingress : HasIngress graph
  · have ends := @idempotency_remarks_ends config graph ingress
    cases outcome : idempotency.remarks config graph with
    | ok remarks => exact ⟨remarks, rfl⟩
    | error fault =>
        rw [outcome] at ends
        exact absurd spellable ends
  · exact ⟨[], idempotency_remarks_of_none ingress⟩

end Remarks

section Findings

variable {context : Context} {graph : Graph}

theorem idempotency_findings_of_enabled (isOn : idempotency.isEnabled context.config = true) :
    idempotency.findings context graph =
      List.map (idempotency.found .should context) <$> idempotency.remarks context.config graph := by
  rw [Rule.findings_eq rfl, if_pos isOn]

theorem exists_idempotency_findings (spellable : KeysSpellable graph) :
    ∃ found, idempotency.findings context graph = .ok found := by
  by_cases isOn : idempotency.isEnabled context.config = true
  · obtain ⟨remarks, remarked⟩ := @exists_idempotency_remarks context.config graph spellable
    rw [idempotency_findings_of_enabled isOn, remarked]
    exact ⟨_, rfl⟩
  · rw [Rule.findings_eq rfl, if_neg isOn]
    exact ⟨[], rfl⟩

open scoped Classical in
theorem idempotency_findings_eq (isOn : idempotency.isEnabled context.config = true)
    (ingress : HasIngress graph) {found : List Finding}
    (succeeds : idempotency.findings context graph = .ok found) :
    found = (graph.nodes.filter fun node => Unguarded (keyFields context.config) graph node).map
      fun node => idempotency.found .should context (missingGuard (keyFields context.config) node) := by
  rw [idempotency_findings_of_enabled isOn] at succeeds
  obtain ⟨remarks, remarked, rfl⟩ := Sequence.map_eq_ok_iff.mp succeeds
  have ends := @idempotency_remarks_ends context.config graph ingress
  rw [remarked] at ends
  rw [show remarks = _ from ends, List.map_map]
  rfl

theorem idempotency_findings_of_none (none : ¬ HasIngress graph) :
    idempotency.findings context graph = .ok [] := by
  rw [Rule.findings_eq rfl, idempotency_remarks_of_none none]
  split <;> rfl

open scoped Classical in
/-- In a graph with an ingress, the findings of R3 are one for each change of data that no node leading to
it guards, in the order of the nodes.  In a graph without an ingress it has none.  It has findings when
every key in the parameters of the nodes can be written.  A guard mentions one of the key fields that are
sought, and of key fields within sixteen bits all are sought. -/
theorem unguarded_mutations_reported {block : IdempotencyBlock}
    (configured : context.config.rules.idempotency = some block) (enabled : block.enabled = true) :
    (HasIngress graph → ∀ found, idempotency.findings context graph = .ok found →
      found = (graph.nodes.filter fun node =>
          Unguarded block.keyFieldCandidates graph node).map fun node =>
        idempotency.found .should context (missingGuard block.keyFieldCandidates node)) ∧
    (¬ HasIngress graph → idempotency.findings context graph = .ok []) ∧
    (KeysSpellable graph → ∃ found, idempotency.findings context graph = .ok found) ∧
    ((∀ candidate ∈ block.keyFieldCandidates, ∀ c ∈ candidate.toList, c.toNat ≤ 0xFFFF) →
      Text.sought block.keyFieldCandidates = block.keyFieldCandidates) := by
  have isOn : idempotency.isEnabled context.config = true := by
    show (context.config.rules.idempotency.map Block.idempotency).any Block.enabled = true
    rw [configured]
    exact enabled
  have fields : keyFields context.config = block.keyFieldCandidates := by
    rw [keyFields, configured]
    rfl
  refine ⟨fun ingress found succeeds => ?_, idempotency_findings_of_none, exists_idempotency_findings,
    Text.sought_of_near⟩
  rw [← fields]
  exact idempotency_findings_eq isOn ingress succeeds

end Findings

/-- Three changes of data behind one webhook.  The first is in a cycle with a step that has a key field in
a nested list, in other letters; the second has a text that is no key field but would match one as a
pattern; the third mentions a key field itself. -/
def guardedGraph : Graph where
  nodes := [{ id := "hook", type := "webhook" },
    { id := "shape", type := "set", params := some
        [(.str "rows", .list [.null, .list [.record [("X-EVENTID", .int 1)]]])] },
    { id := "first", type := "postgres" },
    { id := "plain", type := "set", params := some [(.str "text", .str "a-b")] },
    { id := "second", type := "postgres" },
    { id := "third", type := "mongo", params := some [(.str "row", .str "by a.b now")] }]
  edges := [⟨"hook", "shape", .success⟩, ⟨"shape", "first", .success⟩, ⟨"first", "shape", .error⟩,
    ⟨"hook", "plain", .success⟩, ⟨"plain", "second", .success⟩, ⟨"hook", "third", .success⟩]

def keyFieldsContext : Context where
  path := "flow.json"
  config := { rules := { idempotency := some ⟨true, ["eventId", "a.b"]⟩ } }

open scoped Classical in
/-- Only the second change of data is reported. -/
theorem unguarded_mutations_reported_second :
    ∃ found, idempotency.findings keyFieldsContext guardedGraph = .ok found ∧
      found = (guardedGraph.nodes.filter fun node =>
          Unguarded ["eventId", "a.b"] guardedGraph node).map (fun node =>
        idempotency.found .should keyFieldsContext (missingGuard ["eventId", "a.b"] node)) ∧
      found.map Finding.nodeId = [some "second"] := by
  obtain ⟨reported, _, returns, _⟩ :=
    @unguarded_mutations_reported keyFieldsContext guardedGraph ⟨true, ["eventId", "a.b"]⟩ rfl rfl
  have ingress : HasIngress guardedGraph := ⟨_, List.mem_cons_self, by decide⟩
  have spellable : ∀ node ∈ guardedGraph.nodes, node.paramsValue.isSpellable = true := by
    decide +kernel
  obtain ⟨found, succeeds⟩ := returns fun node listed =>
    Value.keysSpellable_of_isSpellable (spellable node listed)
  have ids : (idempotency.findings keyFieldsContext guardedGraph).toOption.map
      (List.map Finding.nodeId) = some [some "second"] := by decide +kernel
  rw [succeeds] at ids
  exact ⟨found, succeeds, reported ingress found succeeds, Option.some.inj ids⟩

/-- A change of data behind a webhook, with a capital past sixteen bits in its own parameters. -/
def farGuardedGraph : Graph where
  nodes := [{ id := "hook", type := "webhook" },
    { id := "save", type := "postgres", params := some [(.str "row", .str "𐐀")] }]
  edges := [⟨"hook", "save", .success⟩]

def farFieldsContext : Context where
  path := "flow.json"
  config := { rules := { idempotency := some ⟨true, ["𐐀", "a"]⟩ } }

/-- The change of data is reported although its parameters hold a key field. -/
theorem far_guard_reported :
    (∃ found, idempotency.findings farFieldsContext farGuardedGraph = .ok found ∧
      Reports found "save") ∧
    ∃ node ∈ farGuardedGraph.nodes, node.id = "save" ∧ ∃ text, node.paramsValue.Shows text ∧
      Text.Occurs "𐐀".toList text := by
  refine ⟨?_, _, List.mem_cons_of_mem _ List.mem_cons_self, rfl, "𐐀".toList,
    .leaf (.field List.mem_cons_self .self), Text.occursIn_iff.mp (by decide +kernel)⟩
  have ids : (idempotency.findings farFieldsContext farGuardedGraph).toOption.map
      (List.map Finding.nodeId) = some [some "save"] := by decide +kernel
  obtain ⟨found, returned, isId⟩ := Option.map_eq_some_iff.mp ids
  refine ⟨found, Sequence.toOption_eq_some_iff.mp returned, ?_⟩
  rw [Findings.reports_iff_mem, isId]
  exact List.mem_singleton_self _

/-! ## Changes of data that no ingress leads to -/

/-- A path leads from an ingress to the id. -/
def FedByIngress (graph : Graph) (id : String) : Prop :=
  ∃ ingress ∈ graph.nodes, isIngress ingress.type = true ∧ graph.Leads ingress.id id

section Strays

variable {context : Context} {graph : Graph}

private theorem FedByIngress.hasIngress {id : String} (fed : FedByIngress graph id) :
    HasIngress graph := by
  obtain ⟨ingress, listed, isEntry, _⟩ := fed
  exact ⟨ingress, listed, isEntry⟩

/-- When R3 returns, it reports an id exactly when it is on, some node of the graph is an ingress, and a
node with the id is an unguarded change of data. -/
theorem idempotency_reports {found : List Finding}
    (succeeds : idempotency.findings context graph = .ok found) (id : String) :
    Reports found id ↔
      idempotency.isEnabled context.config = true ∧ HasIngress graph ∧
        ∃ node ∈ graph.nodes, node.id = id ∧ Unguarded (keyFields context.config) graph node := by
  classical
  have nothing : ¬ Reports [] id := by simp [Reports]
  by_cases isOn : idempotency.isEnabled context.config = true
  · by_cases ingress : HasIngress graph
    · rw [idempotency_findings_eq isOn ingress succeeds]
      simp only [Findings.reports_found_iff, List.mem_filter, decide_eq_true_eq, isOn, ingress,
        true_and]
      constructor
      · rintro ⟨node, ⟨listed, unguarded⟩, isId⟩
        exact ⟨node, listed, isId, unguarded⟩
      · rintro ⟨node, listed, isId, unguarded⟩
        exact ⟨node, ⟨listed, unguarded⟩, isId⟩
    · rw [idempotency_findings_of_none ingress] at succeeds
      cases succeeds
      exact iff_of_false nothing fun reported => ingress reported.2.1
  · rw [Rule.findings_eq rfl, if_neg isOn] at succeeds
    cases succeeds
    exact iff_of_false nothing fun reported => isOn reported.1

/-- R3 returns when every key in the parameters of the nodes can be written.  When it returns, it reports
of the ids that an ingress leads to those of unguarded changes of data.  Of the others it reports the same
ones, as soon as the graph has an ingress anywhere.  So all that it reports is fed by an ingress exactly
when this holds of every unguarded change of data that it looks at. -/
theorem reports_fed_iff (context : Context) (graph : Graph) :
    (KeysSpellable graph → ∃ found, idempotency.findings context graph = .ok found) ∧
    ∀ found, idempotency.findings context graph = .ok found →
      (∀ id, FedByIngress graph id →
        (Reports found id ↔ idempotency.isEnabled context.config = true ∧
          ∃ node ∈ graph.nodes, node.id = id ∧
            Unguarded (keyFields context.config) graph node)) ∧
      (∀ id, ¬ FedByIngress graph id →
        (Reports found id ↔ idempotency.isEnabled context.config = true ∧ HasIngress graph ∧
          ∃ node ∈ graph.nodes, node.id = id ∧
            Unguarded (keyFields context.config) graph node)) ∧
      ((∀ id, Reports found id → FedByIngress graph id) ↔
        (idempotency.isEnabled context.config = true → HasIngress graph →
          ∀ node ∈ graph.nodes, Unguarded (keyFields context.config) graph node →
            FedByIngress graph node.id)) := by
  refine ⟨exists_idempotency_findings, fun found succeeds => ?_⟩
  have reports_iff := @idempotency_reports context graph found succeeds
  refine ⟨?_, fun id _ => reports_iff id, ?_⟩
  · intro id fed
    rw [reports_iff id, and_iff_right fed.hasIngress]
  · constructor
    · intro allFed isOn ingress node listed unguarded
      exact allFed node.id ((reports_iff node.id).mpr ⟨isOn, ingress, node, listed, rfl, unguarded⟩)
    · intro mutationsFed id reported
      obtain ⟨isOn, ingress, node, listed, rfl, unguarded⟩ := (reports_iff id).mp reported
      exact mutationsFed isOn ingress node listed unguarded

end Strays

/-- A webhook with a step of its own, and a change of data in another part of the graph. -/
def strayGraph : Graph where
  nodes := [{ id := "hook", type := "n8n-nodes-base.webhook" },
    { id := "note", type := "n8n-nodes-base.set" }, { id := "shape", type := "n8n-nodes-base.set" },
    { id := "save", type := "n8n-nodes-base.postgres" }]
  edges := [⟨"hook", "note", .success⟩, ⟨"shape", "save", .success⟩]

/-- The change of data is reported, and no ingress leads to it. -/
theorem stray_mutation_reported :
    ∃ found, idempotency.findings keyFieldsContext strayGraph = .ok found ∧
      Reports found "save" ∧ ¬ FedByIngress strayGraph "save" := by
  have seen : idempotency.findings keyFieldsContext strayGraph = .ok [_] := rfl
  refine ⟨_, seen, by decide, ?_⟩
  rintro ⟨ingress, listed, isEntry, path⟩
  have noPath : ∀ node ∈ strayGraph.nodes, isIngress node.type = true →
      node.id ∉ strayGraph.ancestors "save" := by decide +kernel
  exact noPath ingress listed isEntry (strayGraph.mem_ancestors_iff.mpr path)

end WorkflowLint.Rules
