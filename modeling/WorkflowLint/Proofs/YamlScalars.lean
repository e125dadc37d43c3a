import WorkflowLint.Yaml.Meaning
import WorkflowLint.Proofs.Faults

/-!
Contract: the faults of single values.

Whether a scalar has a value depends on its tag and its text.  Main statement: `scalarValue_failsOnly`,
that the fault of a scalar is one of form, or one of those that `Contradiction` lists for its tag.
-/

set_option autoImplicit false

namespace WorkflowLint.Yaml

open Sequence (FailsOnly failsOnly_ok failsOnly_error)

/-- The faults of scalars under a tag that their text contradicts. -/
inductive Contradiction : Tag → Fault → Prop where
  | notTruth {word : String} (other : word ∉ ["yes", "true", "on", "no", "false", "off"]) :
      Contradiction .truth (.notTruth word)
  | emptyInteger : Contradiction .integer .emptyNumber
  | notInteger {base : Nat} {digits : List Char} (unread : Decimal.readInt? base digits = none) :
      Contradiction .integer (.notInteger base (String.ofList digits))
  | tooManyDigits {count : Nat} (long : Decimal.digitLimit < count) :
      Contradiction .integer (.tooManyDigits count)
  | emptyNumber : Contradiction .number .emptyNumber
  | notNumber {digits : List Char} (unread : Decimal.readFloat? digits = none) :
      Contradiction .number (.notNumber (String.ofList digits))
  | sixtiethTooWide : Contradiction .number .sixtiethTooWide
  | notMoment : Contradiction .timestamp .notMoment
  | outOfRange {reason : String} : Contradiction .timestamp (.momentOutOfRange reason)
  | momentNotText : Contradiction .timestamp .momentNotText

private theorem truthValue_failsOnly (text : List Char) :
    FailsOnly (Contradiction .truth) (truthValue text) := by
  unfold truthValue
  dsimp only
  split
  · exact failsOnly_ok _
  · split
    · exact failsOnly_ok _
    · next notYes notNo =>
        refine failsOnly_error (.notTruth ?_)
        simp only [List.contains_iff_mem, List.mem_cons, List.not_mem_nil] at notYes notNo ⊢
        tauto

theorem integerIn_failsOnly (base : Nat) (text : List Char) :
    FailsOnly (Contradiction .integer) (integerIn base text) := by
  unfold integerIn
  dsimp only
  split
  · next tooLong =>
      simp only [Bool.and_eq_true, decide_eq_true_eq] at tooLong
      exact failsOnly_error (.tooManyDigits tooLong.2)
  · split
    · exact failsOnly_ok _
    · next unread => exact failsOnly_error (.notInteger unread)

theorem signedText_failsOnly (allowed : Fault → Prop) (isAllowed : allowed .emptyNumber)
    (text : List Char) : FailsOnly allowed (signedText text) := by
  unfold signedText
  split
  · exact failsOnly_error isAllowed
  · exact failsOnly_ok _
  · exact failsOnly_ok _
  · exact failsOnly_ok _

private theorem integerValue_failsOnly (text : List Char) :
    FailsOnly (Contradiction .integer) (integerValue text) := by
  have unsignedFails (unsigned : List Char) :
      FailsOnly (Contradiction .integer) (unsignedInteger unsigned) := by
    unfold unsignedInteger
    split
    · exact failsOnly_error .emptyInteger
    · exact failsOnly_ok _
    · exact integerIn_failsOnly _ _
    · exact integerIn_failsOnly _ _
    · exact integerIn_failsOnly _ _
    · split
      · refine (FailsOnly.mapM fun part _ => integerIn_failsOnly 10 part).bind fun parts _ => ?_
        exact failsOnly_ok _
      · exact integerIn_failsOnly _ _
  unfold integerValue
  refine (signedText_failsOnly _ .emptyInteger _).bind fun signed _ => ?_
  exact (unsignedFails signed.2).bind fun value _ => failsOnly_ok _

theorem numberIn_failsOnly (text : List Char) :
    FailsOnly (Contradiction .number) (numberIn text) := by
  unfold numberIn
  split
  · exact failsOnly_ok _
  · next unread => exact failsOnly_error (.notNumber unread)

private theorem sumSixtieths_failsOnly (weight : Int) (sum : Float) (parts : List Float) :
    FailsOnly (Contradiction .number) (sumSixtieths weight sum parts) := by
  induction parts generalizing weight sum with
  | nil => exact failsOnly_ok _
  | cons part parts inductionHypothesis =>
      unfold sumSixtieths
      split
      · exact inductionHypothesis _ _
      · exact failsOnly_error .sixtiethTooWide

private theorem numberValue_failsOnly (text : List Char) :
    FailsOnly (Contradiction .number) (numberValue text) := by
  unfold numberValue
  refine (signedText_failsOnly _ .emptyNumber _).bind fun signed _ => ?_
  dsimp only
  split
  · exact failsOnly_ok _
  · split
    · exact failsOnly_ok _
    · split
      · refine (FailsOnly.mapM fun part _ => numberIn_failsOnly part).bind fun parts _ => ?_
        exact (sumSixtieths_failsOnly _ _ _).bind fun value _ => failsOnly_ok _
      · exact (numberIn_failsOnly _).bind fun value _ => failsOnly_ok _

private theorem momentValue_failsOnly (text : List Char) :
    FailsOnly (Contradiction .timestamp) (momentValue text) := by
  unfold momentValue
  split
  · exact failsOnly_error .notMoment
  · split
    · exact failsOnly_error .outOfRange
    · exact failsOnly_ok _

private theorem binaryValue_failsOnly (text : List Char) :
    FailsOnly (· = .unreadable) (binaryValue text) := by
  unfold binaryValue
  split
  · split
    · exact failsOnly_ok _
    · exact failsOnly_error rfl
  · exact failsOnly_error rfl

mutual

theorem scalarText_failsOnly : ∀ node : Node, FailsOnly (· = .unreadable) (scalarText node)
  | .scalar tag text => by
      rw [scalarText]
      exact failsOnly_ok _
  | .mapping tag entries => by
      rw [scalarText]
      exact defaultText_failsOnly entries
  | .sequence tag items => by
      rw [scalarText]
      exact failsOnly_error rfl

theorem defaultText_failsOnly :
    ∀ entries : List (Node × Node), FailsOnly (· = .unreadable) (defaultText entries)
  | [] => by
      rw [defaultText]
      exact failsOnly_error rfl
  | (key, value) :: rest => by
      rw [defaultText]
      split
      · exact scalarText_failsOnly value
      · exact defaultText_failsOnly rest

end

/-- A scalar has a value, or no readable form, or it contradicts its tag. -/
theorem scalarValue_failsOnly (tag : Tag) (node : Node) :
    FailsOnly (fun fault => fault = .unreadable ∨ Contradiction tag fault)
      (scalarValue tag node) := by
  unfold scalarValue
  refine FailsOnly.bind ((scalarText_failsOnly node).mono fun _ => .inl) fun text _ => ?_
  split
  · exact failsOnly_ok _
  · exact ((truthValue_failsOnly text).mono fun _ => .inr).bind fun _ _ => failsOnly_ok _
  · exact ((integerValue_failsOnly text).mono fun _ => .inr).bind fun _ _ => failsOnly_ok _
  · exact ((numberValue_failsOnly text).mono fun _ => .inr).bind fun _ _ => failsOnly_ok _
  · exact ((binaryValue_failsOnly text).mono fun _ => .inl).bind fun _ _ => failsOnly_ok _
  · split
    · exact ((momentValue_failsOnly text).mono fun _ => .inr).bind fun _ _ => failsOnly_ok _
    · exact failsOnly_error (.inr .momentNotText)
  · exact failsOnly_ok _
  · exact failsOnly_error (.inl rfl)

end WorkflowLint.Yaml
