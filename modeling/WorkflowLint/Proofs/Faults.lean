import WorkflowLint.Proofs.Sequence

/-!
Contract: the faults with which a computation can end.

`FailsOnly` says that a computation succeeds or ends with one of the allowed faults.  It goes through
steps one after another and through one step for every item of a list, so a fault of a whole run is
the fault of one of its steps.  `Ends` also says what its value is good for; `Ends.anyM` is for questions
whether some item of a list has a property.
-/

set_option autoImplicit false

namespace WorkflowLint.Sequence

variable {ε α β : Type} {allowed : ε → Prop}

/-- The computation ends with no fault but an allowed one. -/
def FailsOnly (allowed : ε → Prop) (step : Except ε α) : Prop :=
  ∀ fault, step = .error fault → allowed fault

theorem failsOnly_ok (value : α) : FailsOnly allowed (.ok value) := by
  intro fault failed
  cases failed

theorem failsOnly_error {fault : ε} (isAllowed : allowed fault) :
    FailsOnly allowed (.error fault : Except ε α) := by
  intro other failed
  cases failed
  exact isAllowed

/-- The computation succeeds, or its fault is allowed. -/
theorem FailsOnly.cases {step : Except ε α} (fails : FailsOnly allowed step) :
    (∃ value, step = .ok value) ∨ ∃ fault, step = .error fault ∧ allowed fault := by
  cases step with
  | ok value => exact .inl ⟨value, rfl⟩
  | error fault => exact .inr ⟨fault, rfl, fails fault rfl⟩

theorem FailsOnly.mono {wider : ε → Prop} {step : Except ε α} (fails : FailsOnly allowed step)
    (widens : ∀ fault, allowed fault → wider fault) : FailsOnly wider step := by
  intro fault failed
  exact widens fault (fails fault failed)

theorem FailsOnly.bind {first : Except ε α} {next : α → Except ε β}
    (firstFails : FailsOnly allowed first)
    (nextFails : ∀ value, first = .ok value → FailsOnly allowed (next value)) :
    FailsOnly allowed (first >>= next) := by
  intro fault failed
  cases first with
  | ok value => exact nextFails value rfl fault failed
  | error own =>
      cases failed
      exact firstFails fault rfl

theorem FailsOnly.map {first : Except ε α} (firstFails : FailsOnly allowed first)
    (change : α → β) : FailsOnly allowed (change <$> first) := by
  intro fault failed
  cases first with
  | ok value => cases failed
  | error own =>
      cases failed
      exact firstFails fault rfl

theorem FailsOnly.mapM {step : α → Except ε β} {items : List α}
    (each : ∀ item ∈ items, FailsOnly allowed (step item)) :
    FailsOnly allowed (items.mapM step) := by
  induction items with
  | nil => exact failsOnly_ok []
  | cons item rest inductionHypothesis =>
      obtain ⟨own, others⟩ := List.forall_mem_cons.mp each
      rw [List.mapM_cons]
      refine own.bind fun value _ => ?_
      exact (inductionHypothesis others).bind fun values _ => failsOnly_ok (value :: values)

/-- The fault of a computation that fails. -/
def fault? : Except ε α → Option ε
  | .ok _ => none
  | .error fault => some fault

theorem fault?_eq_some_iff {step : Except ε α} {fault : ε} :
    fault? step = some fault ↔ step = .error fault := by
  cases step with
  | ok value => simp [fault?]
  | error own => simp [fault?]

/-- The computation ends with a good value or with an allowed fault. -/
def Ends (allowed : ε → Prop) (good : α → Prop) : Except ε α → Prop
  | .ok value => good value
  | .error fault => allowed fault

theorem Ends.bind {good : α → Prop} {final : β → Prop} {first : Except ε α}
    {next : α → Except ε β} (firstEnds : Ends allowed good first)
    (nextEnds : ∀ value, good value → Ends allowed final (next value)) :
    Ends allowed final (first >>= next) := by
  cases first with
  | ok value => exact nextEnds value firstEnds
  | error fault => exact firstEnds

theorem Ends.map {good : α → Prop} {final : β → Prop} {first : Except ε α} {change : α → β}
    (firstEnds : Ends allowed good first) (changed : ∀ value, good value → final (change value)) :
    Ends allowed final (first.map change) := by
  cases first with
  | ok value => exact changed value firstEnds
  | error fault => exact firstEnds

theorem Ends.mono {wider : ε → Prop} {good final : α → Prop} {step : Except ε α}
    (ends : Ends allowed good step) (faults : ∀ fault, allowed fault → wider fault)
    (values : ∀ value, good value → final value) : Ends wider final step := by
  cases step with
  | ok value => exact values value ends
  | error fault => exact faults fault ends

/-! ## Questions about some item -/

/-- Whether some item has a property, where the question about each item can fail. -/
theorem Ends.anyM {step : α → Except ε Bool} {holds : α → Prop} {items : List α}
    (each : ∀ item ∈ items, Ends allowed (fun answer => answer = true ↔ holds item) (step item)) :
    Ends allowed (fun answer => answer = true ↔ ∃ item ∈ items, holds item) (items.anyM step) := by
  induction items with
  | nil =>
      show false = true ↔ ∃ item ∈ [], holds item
      simp
  | cons item rest inductionHypothesis =>
      obtain ⟨own, others⟩ := List.forall_mem_cons.mp each
      rw [List.anyM_cons]
      refine own.bind fun answer isAnswer => ?_
      cases answer with
      | true =>
          show true = true ↔ _
          exact iff_of_true rfl ⟨item, List.mem_cons_self, isAnswer.mp rfl⟩
      | false =>
          have refused : ¬ holds item := fun has => Bool.false_ne_true (isAnswer.mpr has)
          refine (inductionHypothesis others).mono (fun _ => id) fun answer isLater => ?_
          rw [isLater, List.exists_mem_cons_iff]
          exact (or_iff_right refused).symm

/-- Items that are passed over need not be asked. -/
theorem anyM_filter (chosen : α → Bool) (step : α → Except ε Bool) (items : List α) :
    (items.anyM fun item => if chosen item then step item else .ok false) =
      (items.filter chosen).anyM step := by
  induction items with
  | nil => rfl
  | cons item rest inductionHypothesis =>
      rw [List.anyM_cons, inductionHypothesis, List.filter_cons]
      cases chosen item with
      | true =>
          simp only [↓reduceIte]
          rw [List.anyM_cons]
      | false => rfl

end WorkflowLint.Sequence
