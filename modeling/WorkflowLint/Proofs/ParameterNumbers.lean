import WorkflowLint.Proofs.DoubleRange
import WorkflowLint.Proofs.Sequence
import WorkflowLint.Value.Number

/-!
Contract: when numbers can be read from parameters.

Numbers are looked for at several paths in turn, and the first one counts.  The only thing that stops
the search is an integer past the doubles, at a path with no number at an earlier one.
-/

set_option autoImplicit false

namespace WorkflowLint.Value

/-- The value is a number, or a text that spells one. -/
def IsNumeric : Value → Prop
  | .int _ => True
  | .float _ => True
  | .str text => ∃ number, textNumber? text.toList = some number
  | _ => False

/-- An integer past the doubles. -/
def IsVast (value : Value) : Prop :=
  ∃ number, value = .int number ∧ Decimal.overflowBound ≤ number.natAbs

/-- The first number at one of the paths is an integer past the doubles. -/
def Overflows (source : Value) (paths : List String) : Prop :=
  ∃ before path after, paths = before ++ path :: after ∧
    (source.atPath (pathParts path)).IsVast ∧
    ∀ earlier ∈ before, ¬ (source.atPath (pathParts earlier)).IsNumeric

private theorem number_eq_error_iff {value : Value} {fault : NumberFault} :
    value.number = .error fault ↔ value.IsVast := by
  cases fault
  cases value with
  | int whole =>
      simp only [number, IsVast, int.injEq, exists_eq_left', ← Decimal.nearestInt?_eq_none_iff]
      cases Decimal.nearestInt? whole <;> simp
  | _ => simp [number, IsVast]

private theorem number_eq_none_iff {value : Value} : value.number = .ok none ↔ ¬ value.IsNumeric := by
  cases value with
  | int whole =>
      simp only [number, IsNumeric, not_true_eq_false, iff_false]
      cases Decimal.nearestInt? whole <;> simp
  | str text =>
      simp only [number, IsNumeric, Except.ok.injEq, not_exists, Option.eq_none_iff_forall_ne_some,
        ne_eq]
  | _ => simp [number, IsNumeric]

private theorem overflows_nil (source : Value) : ¬ source.Overflows [] := by
  rintro ⟨before, path, after, split, _⟩
  simp at split

/-- The first path overflows, or it has no number and the others overflow. -/
theorem overflows_cons_iff {source : Value} {path : String} {paths : List String} :
    source.Overflows (path :: paths) ↔
      (source.atPath (pathParts path)).IsVast ∨
        ¬ (source.atPath (pathParts path)).IsNumeric ∧ source.Overflows paths := by
  constructor
  · rintro ⟨before, found, after, split, vast, noneBefore⟩
    cases before with
    | nil =>
        cases split
        exact .inl vast
    | cons first rest =>
        cases split
        obtain ⟨firstNone, restNone⟩ := List.forall_mem_cons.mp noneBefore
        exact .inr ⟨firstNone, rest, found, after, rfl, vast, restNone⟩
  · rintro (vast | ⟨firstNone, before, found, after, rfl, vast, noneBefore⟩)
    · exact ⟨[], path, paths, rfl, vast, by simp⟩
    · exact ⟨path :: before, found, after, rfl, vast,
        List.forall_mem_cons.mpr ⟨firstNone, noneBefore⟩⟩

/-- The search for a number stops exactly when the first number is past the doubles. -/
theorem numberAt_eq_error_iff {source : Value} {paths : List String} {fault : NumberFault} :
    source.numberAt paths = .error fault ↔ source.Overflows paths := by
  induction paths with
  | nil => simp [numberAt, overflows_nil]
  | cons path paths inductionHypothesis =>
      rw [numberAt, overflows_cons_iff, ← inductionHypothesis, ← number_eq_none_iff,
        ← @number_eq_error_iff _ fault]
      cases (source.atPath (pathParts path)).number with
      | error own =>
          cases own
          cases fault
          simp [bind, Except.bind]
      | ok found =>
          cases found with
          | none => simp [bind, Except.bind]
          | some number => simp [bind, Except.bind, pure, Except.pure]

theorem exists_numberAt_iff {source : Value} {paths : List String} :
    (∃ number, source.numberAt paths = .ok number) ↔ ¬ source.Overflows paths := by
  rw [← @numberAt_eq_error_iff _ _ .integerTooLarge]
  cases source.numberAt paths with
  | error fault =>
      cases fault
      simp
  | ok number => simp

instance (source : Value) (paths : List String) : Decidable (source.Overflows paths) :=
  decidable_of_iff ((source.numberAt paths).toOption.isNone = true) <| by
    rw [← @numberAt_eq_error_iff _ _ .integerTooLarge]
    cases source.numberAt paths with
    | error fault =>
        cases fault
        simp [Except.toOption]
    | ok number => simp [Except.toOption]

end WorkflowLint.Value
