import Mathlib.Data.List.Forall2

/-!
Contract: when computations that can fail succeed.

Owns: a step after another, and one step for every item of a list, where the results are related to
the items in order.
-/

set_option autoImplicit false

namespace WorkflowLint.Sequence

variable {ε α β γ : Type}

/-- A step after another succeeds exactly when both do. -/
theorem bind_eq_ok_iff {first : Except ε α} {next : α → Except ε β} {result : β} :
    (first >>= next) = .ok result ↔ ∃ value, first = .ok value ∧ next value = .ok result := by
  cases first with
  | error fault => simp [bind, Except.bind]
  | ok value => simp [bind, Except.bind]

theorem ok_bind (value : α) (next : α → Except ε β) :
    ((.ok value : Except ε α) >>= next) = next value := rfl

theorem toOption_eq_some_iff {step : Except ε α} {value : α} :
    step.toOption = some value ↔ step = .ok value := by
  cases step with
  | error fault => simp [Except.toOption]
  | ok own => simp [Except.toOption]

/-- A list of steps succeeds exactly when each step gives the result at its place. -/
theorem mapM_eq_ok_iff {step : α → Except ε β} {items : List α} {results : List β} :
    items.mapM step = .ok results ↔
      List.Forall₂ (fun item result => step item = .ok result) items results := by
  induction items generalizing results with
  | nil =>
      simp only [List.mapM_nil, pure, Except.pure, Except.ok.injEq, List.forall₂_nil_left_iff]
      exact eq_comm
  | cons item rest inductionHypothesis =>
      rw [List.mapM_cons, bind_eq_ok_iff, List.forall₂_cons_left_iff]
      constructor
      · intro succeeds
        obtain ⟨value, stepped, others⟩ := succeeds
        obtain ⟨values, restStepped, equal⟩ := bind_eq_ok_iff.mp others
        cases equal
        exact ⟨value, values, stepped, inductionHypothesis.mp restStepped, rfl⟩
      · intro each
        obtain ⟨value, values, stepped, related, rfl⟩ := each
        exact ⟨value, stepped,
          bind_eq_ok_iff.mpr ⟨values, inductionHypothesis.mpr related, rfl⟩⟩

/-- Steps that all succeed with known results. -/
theorem mapM_eq_ok_map {step : α → Except ε β} {value : α → β} {items : List α}
    (each : ∀ item ∈ items, step item = .ok (value item)) :
    items.mapM step = .ok (items.map value) := by
  rw [mapM_eq_ok_iff, List.forall₂_map_right_iff]
  exact List.forall₂_same.mpr each

/-- Steps that all succeed have exactly their results. -/
theorem exists_mapM {step : α → Except ε β} {items : List α}
    (each : ∀ item ∈ items, ∃ result, step item = .ok result) :
    ∃ results, items.mapM step = .ok results ∧
      ∀ result, result ∈ results ↔ ∃ item ∈ items, step item = .ok result := by
  induction items with
  | nil => exact ⟨[], rfl, by simp⟩
  | cons item rest inductionHypothesis =>
      obtain ⟨⟨own, stepped⟩, others⟩ := List.forall_mem_cons.mp each
      obtain ⟨results, restStepped, isResult⟩ := inductionHypothesis others
      refine ⟨own :: results, by rw [List.mapM_cons, stepped, ok_bind, restStepped]; rfl, ?_⟩
      intro result
      simp [isResult, stepped, eq_comm]

/-- Steps whose results are lists: what relates the parts of each item to its results relates all
parts to all results. -/
theorem mapM_flatten_related {step : α → Except ε (List β)} {parts : α → List γ}
    {related : γ → β → Prop} {items : List α}
    (each : ∀ item ∈ items,
      ∃ results, step item = .ok results ∧ List.Forall₂ related (parts item) results) :
    ∃ results, items.mapM step = .ok results ∧
      List.Forall₂ related (items.flatMap parts) results.flatten := by
  induction items with
  | nil => exact ⟨[], rfl, .nil⟩
  | cons item rest inductionHypothesis =>
      obtain ⟨own, ownStepped, ownRelated⟩ := each item (by simp)
      obtain ⟨others, othersStepped, othersRelated⟩ := inductionHypothesis fun other member =>
        each other (List.mem_cons_of_mem item member)
      refine ⟨own :: others, ?_, ?_⟩
      · rw [mapM_eq_ok_iff] at othersStepped ⊢
        exact .cons ownStepped othersStepped
      · rw [List.flatMap_cons, List.flatten_cons]
        exact List.rel_append ownRelated othersRelated

/-- A list of partial steps is defined exactly when each step gives the result at its place. -/
theorem mapM_eq_some_iff {step : α → Option β} {items : List α} {results : List β} :
    items.mapM step = some results ↔
      List.Forall₂ (fun item result => step item = some result) items results := by
  induction items generalizing results with
  | nil =>
      simp only [List.mapM_nil, pure, Option.some.injEq, List.forall₂_nil_left_iff]
      exact eq_comm
  | cons item rest inductionHypothesis =>
      rw [List.mapM_cons, Option.bind_eq_bind, Option.bind_eq_some_iff, List.forall₂_cons_left_iff]
      constructor
      · intro succeeds
        obtain ⟨value, stepped, others⟩ := succeeds
        obtain ⟨values, restStepped, equal⟩ := Option.bind_eq_some_iff.mp others
        cases equal
        exact ⟨value, values, stepped, inductionHypothesis.mp restStepped, rfl⟩
      · intro each
        obtain ⟨value, values, stepped, related, rfl⟩ := each
        exact ⟨value, stepped,
          Option.bind_eq_some_iff.mpr ⟨values, inductionHypothesis.mpr related, rfl⟩⟩

/-- Partial steps that are defined on every related item. -/
theorem mapM_some_related {step : α → Option β} {related : γ → β → Prop} {parts : List γ}
    {items : List α}
    (each : List.Forall₂
      (fun part item => ∃ result, step item = some result ∧ related part result) parts items) :
    ∃ results, items.mapM step = some results ∧ List.Forall₂ related parts results := by
  induction each with
  | nil => exact ⟨[], rfl, .nil⟩
  | cons own _ inductionHypothesis =>
      obtain ⟨result, stepped, resultRelated⟩ := own
      obtain ⟨results, restStepped, restRelated⟩ := inductionHypothesis
      exact ⟨result :: results, by simp [stepped, restStepped], .cons resultRelated restRelated⟩

/-- Partial steps that are all defined give what can be gathered from the items. -/
theorem mapM_eq_some_filterMap {step : α → Option β} {items : List α}
    (each : ∀ item ∈ items, ∃ result, step item = some result) :
    items.mapM step = some (items.filterMap step) := by
  induction items with
  | nil => rfl
  | cons item rest inductionHypothesis =>
      obtain ⟨result, stepped⟩ := each item (by simp)
      have restStepped := inductionHypothesis fun other member =>
        each other (List.mem_cons_of_mem item member)
      simp [stepped, restStepped]

/-- Each of the related results belongs to an item. -/
theorem exists_related_of_mem {related : α → β → Prop} {items : List α} {results : List β}
    (all : List.Forall₂ related items results) {result : β} (member : result ∈ results) :
    ∃ item ∈ items, related item result := by
  induction all with
  | nil => cases member
  | @cons item first items results own _ inductionHypothesis =>
      rcases List.mem_cons.mp member with rfl | later
      · exact ⟨item, by simp, own⟩
      · obtain ⟨other, listed, isRelated⟩ := inductionHypothesis later
        exact ⟨other, List.mem_cons_of_mem item listed, isRelated⟩

end WorkflowLint.Sequence
