import WorkflowLint.Proofs.ReportRoundTrip
import WorkflowLint.Report.CheckRun

/-!
Contract: findings in the order of their severities, and their notes in a check run.

Owns: the stability of the order, and what a note says of its finding.

A ranked list is its must findings, then its should findings, then its nit findings.  Sorting keeps the
findings of each severity as they stand, so this says which list it gives.  The details of a note are
put together from a link and the finding's own details; whichever is missing or empty is left out.
-/

set_option autoImplicit false

namespace WorkflowLint

/-! ## The order by severity -/

namespace Findings

/-- The findings of one severity, in their order. -/
def withSeverity (severity : Severity) (findings : List Finding) : List Finding :=
  findings.filter fun finding => finding.severity == severity

/-- No finding stands before a worse one. -/
def IsRanked (findings : List Finding) : Prop :=
  findings.Pairwise fun earlier later => earlier.severity.rank ≤ later.severity.rank

theorem mem_withSeverity {severity : Severity} {findings : List Finding} {finding : Finding} :
    finding ∈ withSeverity severity findings ↔ finding ∈ findings ∧ finding.severity = severity := by
  rw [withSeverity, List.mem_filter, beq_iff_eq]

theorem rank_trans (first second third : Finding) :
    decide (first.severity.rank ≤ second.severity.rank) = true →
      decide (second.severity.rank ≤ third.severity.rank) = true →
        decide (first.severity.rank ≤ third.severity.rank) = true := by
  intro firstSecond secondThird
  exact decide_eq_true (Nat.le_trans (of_decide_eq_true firstSecond) (of_decide_eq_true secondThird))

theorem rank_total (left right : Finding) :
    (decide (left.severity.rank ≤ right.severity.rank) ||
      decide (right.severity.rank ≤ left.severity.rank)) = true := by
  rw [Bool.or_eq_true, decide_eq_true_iff, decide_eq_true_iff]
  exact Nat.le_total _ _

theorem bySeverity_isRanked (findings : List Finding) : IsRanked (bySeverity findings) :=
  (List.pairwise_mergeSort rank_trans rank_total findings).imp of_decide_eq_true

private theorem bySeverity_of_isRanked {findings : List Finding} (ranked : IsRanked findings) :
    bySeverity findings = findings := by
  apply List.mergeSort_of_pairwise
  exact ranked.imp decide_eq_true

/-- Sorting is stable: the findings of one severity keep their order. -/
theorem withSeverity_bySeverity (severity : Severity) (findings : List Finding) :
    withSeverity severity (bySeverity findings) = withSeverity severity findings := by
  -- Findings of one severity are in order already, and such a part of a list outlasts the sorting.
  have inOrder : (withSeverity severity findings).Pairwise fun earlier later =>
      decide (earlier.severity.rank ≤ later.severity.rank) = true := by
    apply List.pairwise_of_forall_mem_list
    intro earlier isEarlier later isLater
    rw [(mem_withSeverity.mp isEarlier).2, (mem_withSeverity.mp isLater).2]
    exact decide_eq_true (Nat.le_refl _)
  have kept : (withSeverity severity findings).Sublist (bySeverity findings) :=
    List.sublist_mergeSort rank_trans rank_total inOrder List.filter_sublist
  have within : (withSeverity severity findings).Sublist
      (withSeverity severity (bySeverity findings)) := by
    have filtered := kept.filter fun finding => finding.severity == severity
    simp only [withSeverity, List.filter_filter, Bool.and_self] at filtered
    exact filtered
  have sameLength : (withSeverity severity findings).length =
      (withSeverity severity (bySeverity findings)).length :=
    ((List.mergeSort_perm findings _).filter _).length_eq.symm
  exact (within.eq_of_length sameLength).symm

theorem withSeverity_cons (severity : Severity) (first : Finding) (rest : List Finding) :
    withSeverity severity (first :: rest) =
      if first.severity = severity then first :: withSeverity severity rest
      else withSeverity severity rest := by
  simp only [withSeverity, List.filter_cons, beq_iff_eq]

/-- Where no finding is worse than a first one, the severities that are worse are missing. -/
theorem withSeverity_eq_nil_of_lt {severity : Severity} {findings : List Finding} {first : Finding}
    (least : ∀ finding ∈ findings, first.severity.rank ≤ finding.severity.rank)
    (worse : severity.rank < first.severity.rank) : withSeverity severity findings = [] := by
  rw [withSeverity, List.filter_eq_nil_iff]
  intro finding member isOf
  have notWorse := least finding member
  rw [beq_iff_eq.mp isOf] at notWorse
  omega

private theorem eq_groups_of_isRanked {findings : List Finding} (ranked : IsRanked findings) :
    findings = withSeverity .must findings ++ withSeverity .should findings ++
      withSeverity .nit findings := by
  induction findings with
  | nil => rfl
  | cons first rest inductionHypothesis =>
      obtain ⟨least, restRanked⟩ := List.pairwise_cons.mp ranked
      have groups := inductionHypothesis restRanked
      -- The first finding opens its group, and the groups before it are empty.
      cases isFirst : first.severity with
      | must => simp [withSeverity_cons, isFirst, ← groups]
      | should =>
          have noMust : withSeverity .must rest = [] :=
            withSeverity_eq_nil_of_lt least (by rw [isFirst]; decide)
          rw [noMust, List.nil_append] at groups
          simp [withSeverity_cons, isFirst, noMust, ← groups]
      | nit =>
          have noMust : withSeverity .must rest = [] :=
            withSeverity_eq_nil_of_lt least (by rw [isFirst]; decide)
          have noShould : withSeverity .should rest = [] :=
            withSeverity_eq_nil_of_lt least (by rw [isFirst]; decide)
          rw [noMust, noShould, List.nil_append, List.nil_append] at groups
          simp [withSeverity_cons, isFirst, noMust, noShould, ← groups]

private theorem bySeverity_eq_groups (findings : List Finding) :
    bySeverity findings = withSeverity .must findings ++ withSeverity .should findings ++
      withSeverity .nit findings := by
  have groups := eq_groups_of_isRanked (bySeverity_isRanked findings)
  rwa [withSeverity_bySeverity, withSeverity_bySeverity, withSeverity_bySeverity] at groups

end Findings

/-! ## Notes -/

namespace Finding

/-- A text that is there and is not empty. -/
def filled (text : Option String) : Option String :=
  text.filter fun content => content ≠ ""

/-- What the details of a note are made of: a link to the explanation, and the finding's own details. -/
def noteParts (finding : Finding) : List String :=
  ((filled finding.documentation).map fun url => "See examples: " ++ url).toList ++
    (filled finding.details).toList

/-- The parts, with a blank line between two. -/
def noteText (finding : Finding) : String :=
  "\n\n".intercalate finding.noteParts

theorem filled_cases (text : Option String) :
    filled text = none ∧ text.getD "" = "" ∨
      ∃ content, content ≠ "" ∧ filled text = some content ∧ text.getD "" = content := by
  cases text with
  | none => exact .inl ⟨rfl, rfl⟩
  | some content =>
      by_cases isEmpty : content = ""
      · exact .inl ⟨by simp [filled, Option.filter_some, isEmpty], isEmpty⟩
      · exact .inr ⟨content, isEmpty, by simp [filled, Option.filter_some, isEmpty], rfl⟩

private theorem explanation_eq (finding : Finding) :
    finding.explanation = if finding.documentation.getD "" = "" then []
      else "See examples: ".toList ++ (finding.documentation.getD "").toList := by
  unfold explanation
  cases finding.documentation with
  | none => rfl
  | some url => simp only [String.isEmpty_iff, Option.getD_some]

private theorem noteDetails_eq (finding : Finding) :
    finding.noteDetails = finding.noteText.toList := by
  rw [noteDetails, noteText, String.toList_intercalate, explanation_eq, noteParts]
  rcases filled_cases finding.documentation with ⟨noLink, isMissing⟩ | ⟨url, isUrl, hasLink, isGiven⟩
  · rw [noLink, isMissing]
    rcases filled_cases finding.details with ⟨noDetails, noText⟩ | ⟨details, isText, hasDetails, given⟩
    · simp [noDetails, noText]
    · simp [hasDetails, given]
  · rw [hasLink, isGiven, if_neg isUrl]
    rcases filled_cases finding.details with ⟨noDetails, noText⟩ | ⟨details, isText, hasDetails, given⟩
    · simp [noDetails, noText]
    · simp [hasDetails, given, isText]

/-- A record tells of a finding what a note has to tell. -/
structure IsToldBy (finding : Finding) (written : Value) : Prop where
  path : written.member? "path" = some (.str finding.path)
  startLine : written.member? "start_line" =
    some (.int ((finding.line.filter fun line => line ≠ 0).getD 1))
  endLine : written.member? "end_line" = written.member? "start_line"
  level : ∃ level, (finding.severity, level) ∈
      [(Severity.must, "failure"), (.should, "warning"), (.nit, "notice")] ∧
    written.member? "annotation_level" = some (.str level)
  message : written.member? "message" = some (.str (finding.rule ++ ": " ++ finding.message))
  details : written.member? "raw_details" =
    if finding.noteText = "" then none
    else some (.str (String.ofList (finding.noteText.toList.take 64000)))

private theorem isToldBy_note (finding : Finding) : finding.IsToldBy finding.note.toValue where
  path := rfl
  startLine := by
    have line : finding.noteLine = (finding.line.filter fun line => line ≠ 0).getD 1 := by
      unfold noteLine
      cases finding.line with
      | none => rfl
      | some line => by_cases isZero : line = 0 <;> simp [Option.filter_some, isZero]
    rw [← line]
    rfl
  endLine := rfl
  level := by
    refine ⟨finding.severity.noteLevel, ?_, rfl⟩
    cases finding.severity <;> decide
  message := rfl
  details := by
    have found : finding.note.toValue.member? "raw_details" = finding.note.details.map .str := by
      rw [CheckNote.toValue, Value.member?_record, List.lookup_append]
      exact Value.lookup_optionalField "raw_details" .str finding.note.details
    rw [found, note, noteDetails_eq]
    by_cases isEmpty : finding.noteText = ""
    · simp [isEmpty]
    · simp [isEmpty, CheckNote.detailLimit]

end Finding

namespace Findings

/-- Sorting gives the must findings, then the should findings, then the nit findings, each group in its
order, and leaves a ranked list alone.  In this order each finding has one note. -/
theorem notes_tell_by_severity (findings : List Finding) :
    bySeverity findings = withSeverity .must findings ++ withSeverity .should findings ++
        withSeverity .nit findings ∧
      List.Forall₂ Finding.IsToldBy (bySeverity findings)
        ((notes findings).map CheckNote.toValue) ∧
      IsRanked (bySeverity findings) ∧
      (IsRanked findings → bySeverity findings = findings) := by
  refine ⟨bySeverity_eq_groups findings, ?_, bySeverity_isRanked findings, bySeverity_of_isRanked⟩
  rw [notes, List.map_map, List.forall₂_map_right_iff, List.forall₂_same]
  intro finding _
  exact finding.isToldBy_note

end Findings

end WorkflowLint
