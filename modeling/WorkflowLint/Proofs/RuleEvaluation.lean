import WorkflowLint.Rule.Registry
import WorkflowLint.Proofs.Sequence

/-!
Contract: how checks of single items become the findings of a run.

`gather` puts together what a check says about the items of a list.  Rules look at nodes or edges in
this way, and a run looks at rules in this way.  Every rule of the run has a severity, so its findings
are its remarks, one by one.
-/

set_option autoImplicit false

namespace WorkflowLint

/-! ## Gathering -/

namespace Sequence

variable {ε α β : Type}

/-- What a step gives for the items of a list, one after another. -/
def gather (step : α → Except ε (List β)) (items : List α) : Except ε (List β) :=
  List.flatten <$> items.mapM step

theorem map_eq_ok_iff {first : Except ε α} {change : α → β} {result : β} :
    change <$> first = .ok result ↔ ∃ value, first = .ok value ∧ change value = result := by
  cases first with
  | error fault => simp [Functor.map, Except.map]
  | ok value => simp [Functor.map, Except.map]

theorem gather_cons (step : α → Except ε (List β)) (item : α) (items : List α) :
    gather step (item :: items) = do return (← step item) ++ (← gather step items) := by
  simp [gather]

theorem gather_append (step : α → Except ε (List β)) (left right : List α) :
    gather step (left ++ right) = do return (← gather step left) ++ (← gather step right) := by
  simp [gather]

theorem gather_cons_eq_ok_iff {step : α → Except ε (List β)} {item : α} {items : List α}
    {all : List β} :
    gather step (item :: items) = .ok all ↔
      ∃ own others, step item = .ok own ∧ gather step items = .ok others ∧ own ++ others = all := by
  rw [gather_cons]
  constructor
  · intro succeeds
    obtain ⟨own, stepped, rest⟩ := bind_eq_ok_iff.mp succeeds
    obtain ⟨others, gathered, equal⟩ := bind_eq_ok_iff.mp rest
    exact ⟨own, others, stepped, gathered, Except.ok.inj equal⟩
  · rintro ⟨own, others, stepped, gathered, rfl⟩
    exact bind_eq_ok_iff.mpr ⟨own, stepped, bind_eq_ok_iff.mpr ⟨others, gathered, rfl⟩⟩

theorem gather_congr {first second : α → Except ε (List β)} {items : List α}
    (same : ∀ item ∈ items, first item = second item) :
    gather first items = gather second items := by
  induction items with
  | nil => rfl
  | cons item rest inductionHypothesis =>
      rw [gather_cons, gather_cons, same item List.mem_cons_self,
        inductionHypothesis fun other member => same other (List.mem_cons_of_mem item member)]

/-- Steps that never fail select items and say one thing about each. -/
theorem gather_select (chosen : α → Bool) (about : α → β) (items : List α) :
    gather (fun item => (.ok (if chosen item then [about item] else []) : Except ε (List β))) items =
      .ok ((items.filter chosen).map about) := by
  induction items with
  | nil => rfl
  | cons item rest inductionHypothesis =>
      rw [gather_cons, inductionHypothesis, List.filter_cons]
      cases chosen item <;> rfl

theorem exists_ok_of_gather {step : α → Except ε (List β)} {items : List α} {all : List β}
    (succeeds : gather step items = .ok all) : ∀ item ∈ items, ∃ own, step item = .ok own := by
  induction items generalizing all with
  | nil => simp
  | cons item rest inductionHypothesis =>
      obtain ⟨own, others, stepped, gathered, _⟩ := gather_cons_eq_ok_iff.mp succeeds
      exact List.forall_mem_cons.mpr ⟨⟨own, stepped⟩, inductionHypothesis gathered⟩

/-- Something is gathered exactly when every step returns. -/
theorem exists_gather_iff {step : α → Except ε (List β)} {items : List α} :
    (∃ all, gather step items = .ok all) ↔ ∀ item ∈ items, ∃ own, step item = .ok own := by
  constructor
  · rintro ⟨all, gathered⟩
    exact exists_ok_of_gather gathered
  · intro each
    induction items with
    | nil => exact ⟨[], rfl⟩
    | cons item rest inductionHypothesis =>
        obtain ⟨⟨own, stepped⟩, others⟩ := List.forall_mem_cons.mp each
        obtain ⟨all, gathered⟩ := inductionHypothesis others
        exact ⟨own ++ all, gather_cons_eq_ok_iff.mpr ⟨own, all, stepped, gathered, rfl⟩⟩

/-- Steps that may fail, but select items when they do not. -/
theorem eq_select_of_gather {step : α → Except ε (List β)} {chosen : α → Bool} {about : α → β}
    {items : List α} (each : ∀ item ∈ items, ∀ own, step item = .ok own →
      own = if chosen item then [about item] else [])
    {all : List β} (succeeds : gather step items = .ok all) :
    all = (items.filter chosen).map about := by
  have selects : gather step items =
      gather (fun item => .ok (if chosen item then [about item] else [])) items := by
    refine gather_congr fun item listed => ?_
    obtain ⟨own, stepped⟩ := exists_ok_of_gather succeeds item listed
    rw [stepped, each item listed own stepped]
  rw [selects, gather_select] at succeeds
  exact (Except.ok.inj succeeds).symm

/-- A choice among what is gathered is made item by item. -/
theorem gather_filter (chosen : β → Bool) {step : α → Except ε (List β)} {items : List α}
    {all : List β} (succeeds : gather step items = .ok all) :
    gather (fun item => List.filter chosen <$> step item) items = .ok (all.filter chosen) := by
  induction items generalizing all with
  | nil =>
      cases succeeds
      rfl
  | cons item rest inductionHypothesis =>
      obtain ⟨own, others, stepped, gathered, rfl⟩ := gather_cons_eq_ok_iff.mp succeeds
      rw [List.filter_append]
      exact gather_cons_eq_ok_iff.mpr ⟨own.filter chosen, others.filter chosen,
        map_eq_ok_iff.mpr ⟨own, stepped, rfl⟩, inductionHypothesis gathered, rfl⟩

/-- The order of the items decides only the order of what is gathered. -/
theorem gather_perm {step : α → Except ε (List β)} {items others : List α}
    (same : items.Perm others) {all : List β} (succeeds : gather step items = .ok all) :
    ∃ gathered, gather step others = .ok gathered ∧ gathered.Perm all := by
  induction same generalizing all with
  | nil => exact ⟨all, succeeds, .refl all⟩
  | cons item _ inductionHypothesis =>
      obtain ⟨own, rest, stepped, restGathered, rfl⟩ := gather_cons_eq_ok_iff.mp succeeds
      obtain ⟨gathered, again, permuted⟩ := inductionHypothesis restGathered
      exact ⟨own ++ gathered, gather_cons_eq_ok_iff.mpr ⟨own, gathered, stepped, again, rfl⟩,
        permuted.append_left own⟩
  | swap first second rest =>
      obtain ⟨own, _, stepped, later, rfl⟩ := gather_cons_eq_ok_iff.mp succeeds
      obtain ⟨next, last, nextStepped, lastGathered, rfl⟩ := gather_cons_eq_ok_iff.mp later
      refine ⟨next ++ (own ++ last), ?_, ?_⟩
      · exact gather_cons_eq_ok_iff.mpr ⟨next, own ++ last, nextStepped,
          gather_cons_eq_ok_iff.mpr ⟨own, last, stepped, lastGathered, rfl⟩, rfl⟩
      · rw [← List.append_assoc, ← List.append_assoc]
        exact List.perm_append_comm.append_right last
  | trans _ _ firstHypothesis secondHypothesis =>
      obtain ⟨middle, middleGathered, middlePermuted⟩ := firstHypothesis succeeds
      obtain ⟨gathered, again, permuted⟩ := secondHypothesis middleGathered
      exact ⟨gathered, again, permuted.trans middlePermuted⟩

/-- Steps that differ only in the order of their results differ only in the order of what is
gathered. -/
theorem gather_perm_steps {first second : α → Except ε (List β)} {items : List α}
    (each : ∀ item ∈ items, ∀ own other, first item = .ok own → second item = .ok other →
      other.Perm own)
    {all others : List β} (succeeds : gather first items = .ok all)
    (again : gather second items = .ok others) : others.Perm all := by
  induction items generalizing all others with
  | nil =>
      cases succeeds
      cases again
      exact .refl []
  | cons item rest inductionHypothesis =>
      obtain ⟨own, later, stepped, gathered, rfl⟩ := gather_cons_eq_ok_iff.mp succeeds
      obtain ⟨other, last, otherStepped, lastGathered, rfl⟩ := gather_cons_eq_ok_iff.mp again
      obtain ⟨here, after⟩ := List.forall_mem_cons.mp each
      exact (here own other stepped otherStepped).append
        (inductionHypothesis after gathered lastGathered)

end Sequence

/-! ## Findings of a rule -/

namespace Rule

/-- The finding that a rule of a known severity makes of a remark. -/
def found (rule : Rule) (severity : Severity) (context : Context) (remark : Remark) : Finding where
  rule := rule.id
  severity := severity
  path := context.path
  message := remark.message
  details := remark.details
  nodeId := some remark.nodeId
  line := context.lines.lookup remark.nodeId

/-- A rule of a known severity that is on turns each remark into a finding. -/
theorem findings_eq {rule : Rule} {severity : Severity} (known : rule.severity = .ok severity)
    (context : Context) (graph : Graph) :
    rule.findings context graph =
      if rule.isEnabled context.config then
        List.map (rule.found severity context) <$> rule.remarks context.config graph
      else .ok [] := by
  have each (remarks : List Remark) :
      remarks.mapM (rule.finding context) = .ok (remarks.map (rule.found severity context)) := by
    apply Sequence.mapM_eq_ok_map
    intro remark _
    rw [finding, known]
    rfl
  unfold findings
  split
  · cases rule.remarks context.config graph with
    | error fault => rfl
    | ok remarks => exact each remarks
  · rfl

/-- A rule that is on and says one thing about each of some items has one finding for each. -/
theorem findings_of_remarks {α : Type} {rule : Rule} {severity : Severity}
    (known : rule.severity = .ok severity) {context : Context} {graph : Graph}
    (enabled : rule.isEnabled context.config = true) {items : List α} {about : α → Remark}
    (remarked : rule.remarks context.config graph = .ok (items.map about)) :
    rule.findings context graph =
      .ok (items.map fun item => rule.found severity context (about item)) := by
  rw [findings_eq known, if_pos enabled, remarked, Sequence.map_eq_ok_iff]
  exact ⟨items.map about, rfl, List.map_map⟩

/-- Every rule of a run is in the catalogue, with its severity. -/
theorem info_of_builtin {rule : Rule} (listed : rule ∈ Rules.builtin) :
    ∃ info, RuleInfo.find? rule.id = some info ∧ rule.severity = .ok info.severity := by
  simp only [Rules.builtin, List.mem_cons, List.not_mem_nil, or_false] at listed
  rcases listed with rfl | rfl | rfl | rfl | rfl | rfl | rfl | rfl | rfl | rfl | rfl | rfl | rfl | rfl
  all_goals exact ⟨_, rfl, rfl⟩

/-- The findings of a rule bear its id. -/
theorem rule_of_mem_findings {rule : Rule} {context : Context} {graph : Graph}
    {found : List Finding} (succeeds : rule.findings context graph = .ok found) :
    ∀ finding ∈ found, finding.rule = rule.id := by
  intro finding member
  unfold findings at succeeds
  split at succeeds
  · obtain ⟨remarks, _, each⟩ := Sequence.bind_eq_ok_iff.mp succeeds
    obtain ⟨remark, _, made⟩ :=
      Sequence.exists_related_of_mem (Sequence.mapM_eq_ok_iff.mp each) member
    obtain ⟨severity, _, equal⟩ := Sequence.bind_eq_ok_iff.mp made
    cases equal
    rfl
  · cases succeeds
    cases member

end Rule

namespace Findings

/-- Some finding is about the node with an id. -/
def Reports (findings : List Finding) (id : String) : Prop :=
  ∃ finding ∈ findings, finding.nodeId = some id

instance (findings : List Finding) (id : String) : Decidable (Reports findings id) :=
  inferInstanceAs (Decidable (∃ finding ∈ findings, finding.nodeId = some id))

theorem reports_iff_mem {findings : List Finding} {id : String} :
    Reports findings id ↔ some id ∈ findings.map Finding.nodeId :=
  List.mem_map.symm

theorem reports_found_iff {α : Type} {rule : Rule} {severity : Severity} {context : Context}
    {items : List α} {about : α → Remark} {id : String} :
    Reports (items.map fun item => rule.found severity context (about item)) id ↔
      ∃ item ∈ items, (about item).nodeId = id := by
  simp [Reports, Rule.found]

end Findings

/-- A run without further checks gathers the findings of its rules. -/
theorem Rules.runAll_eq_gather (context : Context) (graph : Graph) :
    runAll context graph [] =
      Sequence.gather (fun rule => rule.findings context graph) builtin := by
  rw [runAll, run, List.append_nil, List.mapM_map]
  rfl

end WorkflowLint
