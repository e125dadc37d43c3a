import WorkflowLint.Report.CheckRun
import WorkflowLint.Proofs.DocumentVerdict
import WorkflowLint.Proofs.FindingPlaces

/-!
Contract: the verdict over several texts.

A summary counts findings by severity, the exit code compares ranks, and a conclusion looks for
severities; all three follow from which findings there are.  A text counts as invalid exactly when it
is refused.  Main statement: `documents_exitCode`.
-/

set_option autoImplicit false

namespace WorkflowLint

/-! ## Findings by severity -/

namespace Findings

/-- Some finding is as bad as a threshold, or worse. -/
def Reach (findings : List Finding) (threshold : Severity) : Prop :=
  ∃ finding ∈ findings, finding.severity.rank ≤ threshold.rank

theorem count_pos_iff {severity : Severity} {findings : List Finding} :
    0 < count severity findings ↔ ∃ finding ∈ findings, finding.severity = severity := by
  simp only [count, List.countP_pos_iff, beq_iff_eq]

private theorem counts_add (findings : List Finding) :
    count .must findings + count .should findings + count .nit findings = findings.length := by
  unfold count
  induction findings with
  | nil => rfl
  | cons finding rest inductionHypothesis =>
      have countedOnce : (if finding.severity == .must then 1 else 0) +
          (if finding.severity == .should then 1 else 0) +
          (if finding.severity == .nit then 1 else 0) = 1 := by
        cases finding.severity <;> rfl
      rw [List.countP_cons, List.countP_cons, List.countP_cons, List.length_cons]
      omega

private theorem reach_must_iff {findings : List Finding} :
    Reach findings .must ↔ (findings.any fun finding => finding.severity == .must) = true := by
  have rank_iff (severity : Severity) : severity.rank ≤ Severity.must.rank ↔ severity = .must := by
    cases severity <;> decide
  simp only [Reach, rank_iff, List.any_eq_true, beq_iff_eq]

private theorem reach_should_iff {findings : List Finding} :
    Reach findings .should ↔
      (findings.any fun finding => finding.severity == .must) = true ∨
        (findings.any fun finding => finding.severity == .should) = true := by
  have rank_iff (severity : Severity) :
      severity.rank ≤ Severity.should.rank ↔ severity = .must ∨ severity = .should := by
    cases severity <;> decide
  simp only [Reach, rank_iff, List.any_eq_true, beq_iff_eq, and_or_left, exists_or]

private theorem conclusion_cases (findings : List Finding) :
    (conclusion findings = "failure" ↔ Reach findings .must) ∧
    (conclusion findings = "failure" ∨ conclusion findings = "neutral" ↔ Reach findings .should) := by
  rw [reach_must_iff, reach_should_iff, conclusion]
  generalize (findings.any fun finding => finding.severity == .must) = blocks
  generalize (findings.any fun finding => finding.severity == .should) = warns
  cases blocks <;> cases warns <;> decide

end Findings

namespace Threshold

/-- Some finding of some result is as bad as the threshold, or worse. -/
def IsReached (threshold : Threshold) (results : List Result) : Prop :=
  ∃ severity, threshold = .severity severity ∧
    ∃ result ∈ results, ∃ finding ∈ result.findings, finding.severity.rank ≤ severity.rank

theorem isReached_severity_iff {severity : Severity} {results : List Result} :
    (Threshold.severity severity).IsReached results ↔
      Findings.Reach (results.flatMap Result.findings) severity := by
  constructor
  · rintro ⟨_, same, result, listed, finding, member, reaches⟩
    cases same
    exact ⟨finding, List.mem_flatMap.mpr ⟨result, listed, member⟩, reaches⟩
  · rintro ⟨finding, found, reaches⟩
    obtain ⟨result, listed, member⟩ := List.mem_flatMap.mp found
    exact ⟨severity, rfl, result, listed, finding, member, reaches⟩

end Threshold

/-! ## Summaries -/

namespace Summary

/-- Counts are added one by one. -/
def plus (left right : Summary) : Summary where
  files := left.files + right.files
  findings := left.findings + right.findings
  must := left.must + right.must
  should := left.should + right.should
  nit := left.nit + right.nit
  invalid := left.invalid + right.invalid

private theorem ofResults_append (left right : List Result) :
    ofResults (left ++ right) = (ofResults left).plus (ofResults right) := by
  simp only [ofResults, plus, Findings.count, List.flatMap_append, List.length_append,
    List.countP_append, Int.natCast_add]

private theorem severities_add (results : List Result) :
    (ofResults results).must + (ofResults results).should + (ofResults results).nit =
      (ofResults results).findings := by
  have added := Findings.counts_add (results.flatMap Result.findings)
  dsimp only [ofResults]
  omega

theorem count_ofResults (results : List Result) (severity : Severity) :
    (ofResults results).count severity =
      Findings.count severity (results.flatMap Result.findings) := by
  cases severity <;> rfl

private theorem sum_nonnegative {numbers : List Int} (nonnegative : ∀ number ∈ numbers, 0 ≤ number) :
    0 ≤ numbers.foldr (· + ·) 0 := by
  induction numbers with
  | nil => simp
  | cons first others inductionHypothesis =>
      obtain ⟨firstNonnegative, othersNonnegative⟩ := List.forall_mem_cons.mp nonnegative
      have othersSum := inductionHypothesis othersNonnegative
      rw [List.foldr_cons]
      omega

private theorem sum_pos_iff {numbers : List Int} (nonnegative : ∀ number ∈ numbers, 0 ≤ number) :
    0 < numbers.foldr (· + ·) 0 ↔ ∃ number ∈ numbers, 0 < number := by
  induction numbers with
  | nil => simp
  | cons first others inductionHypothesis =>
      obtain ⟨firstNonnegative, othersNonnegative⟩ := List.forall_mem_cons.mp nonnegative
      have othersSum := sum_nonnegative othersNonnegative
      have othersPositive := inductionHypothesis othersNonnegative
      rw [List.foldr_cons, List.exists_mem_cons_iff, ← othersPositive]
      omega

private theorem atLeast_pos_iff {results : List Result} {threshold : Severity} :
    0 < (ofResults results).atLeast threshold ↔
      Findings.Reach (results.flatMap Result.findings) threshold := by
  have listed (severity : Severity) : severity ∈ [Severity.must, .should, .nit] := by
    cases severity <;> decide
  have counts_pos (severity : Severity) : 0 < (ofResults results).count severity ↔
      ∃ finding ∈ results.flatMap Result.findings, finding.severity = severity := by
    rw [count_ofResults, Int.natCast_pos, Findings.count_pos_iff]
  unfold atLeast
  -- Counts are not negative, so they sum to something when one of them counts something.
  rw [sum_pos_iff]
  · constructor
    · rintro ⟨number, member, positive⟩
      obtain ⟨severity, reaching, rfl⟩ := List.mem_map.mp member
      obtain ⟨finding, found, rfl⟩ := (counts_pos severity).mp positive
      exact ⟨finding, found, of_decide_eq_true (List.mem_filter.mp reaching).2⟩
    · rintro ⟨finding, found, reaches⟩
      have reaching : finding.severity ∈
          [Severity.must, .should, .nit].filter fun severity => severity.reaches threshold :=
        List.mem_filter.mpr ⟨listed _, decide_eq_true reaches⟩
      exact ⟨_, List.mem_map_of_mem reaching, (counts_pos _).mpr ⟨finding, found, rfl⟩⟩
  · intro number member
    obtain ⟨severity, _, rfl⟩ := List.mem_map.mp member
    rw [count_ofResults]
    exact Int.natCast_nonneg _

theorem fails_iff {results : List Result} {threshold : Threshold} :
    (ofResults results).fails threshold = true ↔ threshold.IsReached results := by
  cases threshold with
  | never => simp [fails, Threshold.IsReached]
  | severity severity =>
      rw [fails, decide_eq_true_iff, atLeast_pos_iff, Threshold.isReached_severity_iff]

private theorem invalid_ne_zero_iff {results : List Result} :
    (ofResults results).invalid ≠ 0 ↔ ∃ result ∈ results, result.isValid = false := by
  dsimp only [ofResults]
  rw [Int.natCast_ne_zero, ← Nat.pos_iff_ne_zero, List.countP_pos_iff]
  simp only [Bool.not_eq_true']

theorem exitCode_cases (summary : Summary) (threshold : Threshold) :
    (summary.exitCode threshold = 1 ↔ summary.fails threshold = true) ∧
    (summary.exitCode threshold = 2 ↔ ¬ summary.fails threshold = true ∧ summary.invalid ≠ 0) ∧
    (summary.exitCode threshold = 0 ↔ ¬ summary.fails threshold = true ∧ ¬ summary.invalid ≠ 0) := by
  unfold exitCode
  by_cases fails : summary.fails threshold = true
  · simp [fails]
  · by_cases clean : summary.invalid = 0
    · simp [fails, clean]
    · simp [fails, clean]

end Summary

/-! ## Texts -/

/-- The text is refused with issues, for its syntax or for its structure. -/
def Document.IsRefused (text : String) : Prop :=
  ∃ refusal, graph text = .error (.undecoded (.refused refusal)) ∨
    graph text = .error (.rejected (.refused refusal))

theorem Document.isRefused_iff {text : String} :
    IsRefused text ↔ ∃ failure refusal, graph text = .error failure ∧
      failure.refusal? = some refusal := by
  constructor
  · rintro ⟨refusal, undecoded | rejected⟩
    · exact ⟨_, refusal, undecoded, rfl⟩
    · exact ⟨_, refusal, rejected, rfl⟩
  · rintro ⟨failure, refusal, failed, isRefusal⟩
    unfold Failure.refusal? at isRefusal
    split at isRefusal
    · cases isRefusal
      exact ⟨refusal, .inl failed⟩
    · cases isRefusal
      exact ⟨refusal, .inr failed⟩
    · cases isRefusal

private theorem Refusal.issues_ne_nil (refusal : Refusal) : refusal.issues ≠ [] := by
  cases refusal <;> simp [issues]

namespace Lint

private theorem isValid_of_ofGraph {setup : Setup} {path : String} {graph : Graph} {result : Result}
    (returns : ofGraph setup path graph = .ok result) : result.isValid = true := by
  unfold ofGraph at returns
  split at returns
  · cases returns
    rfl
  · cases returns

theorem document_of_refusal {text : String} {failure : Document.Failure} {refusal : Refusal}
    (failed : Document.graph text = .error failure) (isRefusal : failure.refusal? = some refusal)
    (setup : Setup) (path : String) :
    document setup path text = .ok { path := path, issues := refusal.issues } := by
  unfold document
  rw [failed]
  simp only [isRefusal]

theorem isValid_eq_false_iff {setup : Setup} {path text : String} {result : Result}
    (returns : document setup path text = .ok result) :
    result.isValid = false ↔ Document.IsRefused text := by
  rw [Document.isRefused_iff]
  cases parsed : Document.graph text with
  | ok built =>
      rw [document_of_graph parsed] at returns
      simp [isValid_of_ofGraph returns]
  | error failure =>
      cases isRefusal : failure.refusal? with
      | none =>
          unfold document at returns
          simp only [parsed, isRefusal] at returns
          cases returns
      | some refusal =>
          cases (document_of_refusal parsed isRefusal setup path).symm.trans returns
          have hasIssues := refusal.issues_ne_nil
          simp [Result.isValid, hasIssues, isRefusal]

private theorem exists_invalid_iff {setup : Setup} {files : List (String × String)}
    {results : List Result}
    (returns : documents setup files = .ok results) :
    (∃ result ∈ results, result.isValid = false) ↔ ∃ file ∈ files, Document.IsRefused file.2 := by
  have each := Sequence.mapM_eq_ok_iff.mp returns
  constructor
  · rintro ⟨result, member, invalid⟩
    obtain ⟨file, listed, returned⟩ := Sequence.exists_related_of_mem each member
    exact ⟨file, listed, (isValid_eq_false_iff returned).mp invalid⟩
  · rintro ⟨file, listed, refused⟩
    obtain ⟨result, member, returned⟩ := Sequence.exists_related_of_mem each.flip listed
    exact ⟨result, member, (isValid_eq_false_iff returned).mpr refused⟩

/-- The exit code over texts is 1 exactly when some finding reaches the threshold, else 2 exactly when
some text is refused, else 0.  Over the same findings, the conclusion is a failure exactly when the exit
code at the worst severity is 1, and a failure or neutral exactly when it is 1 at the next. -/
theorem documents_exitCode {setup : Setup} {files : List (String × String)} {results : List Result}
    (returns : documents setup files = .ok results) (threshold : Threshold) :
    ((Summary.ofResults results).exitCode threshold = 1 ↔ threshold.IsReached results) ∧
    ((Summary.ofResults results).exitCode threshold = 2 ↔
      ¬ threshold.IsReached results ∧ ∃ file ∈ files, Document.IsRefused file.2) ∧
    ((Summary.ofResults results).exitCode threshold = 0 ↔
      ¬ threshold.IsReached results ∧ ¬ ∃ file ∈ files, Document.IsRefused file.2) ∧
    (Findings.conclusion (results.flatMap Result.findings) = "failure" ↔
      (Summary.ofResults results).exitCode (.severity .must) = 1) ∧
    (Findings.conclusion (results.flatMap Result.findings) = "failure" ∨
        Findings.conclusion (results.flatMap Result.findings) = "neutral" ↔
      (Summary.ofResults results).exitCode (.severity .should) = 1) ∧
    (Summary.ofResults results).must + (Summary.ofResults results).should +
        (Summary.ofResults results).nit = (Summary.ofResults results).findings ∧
    ∀ left right, Summary.ofResults (left ++ right) =
      (Summary.ofResults left).plus (Summary.ofResults right) := by
  have invalid_iff := Summary.invalid_ne_zero_iff.trans (exists_invalid_iff returns)
  have one_iff (severity : Severity) :
      (Summary.ofResults results).exitCode (.severity severity) = 1 ↔
        Findings.Reach (results.flatMap Result.findings) severity := by
    rw [(Summary.exitCode_cases _ _).1, Summary.fails_iff, Threshold.isReached_severity_iff]
  obtain ⟨one, two, zero⟩ := Summary.exitCode_cases (Summary.ofResults results) threshold
  obtain ⟨failure, neutral⟩ := Findings.conclusion_cases (results.flatMap Result.findings)
  rw [Summary.fails_iff] at one two zero
  rw [invalid_iff] at two zero
  rw [← one_iff] at failure neutral
  exact ⟨one, two, zero, failure, neutral, Summary.severities_add results, Summary.ofResults_append⟩

theorem isRefused_list : Document.IsRefused "[]" := by
  have decoded : Json.decode "[]".toList = .ok (.list []) := rfl
  have failsOnly := Document.check_failsOnly (Json.isJson_of_decode decoded)
  rcases failsOnly.cases with ⟨accepted, passed⟩ | ⟨_, rejected, refusal, rfl, _⟩
  · obtain ⟨isMap, _⟩ := Document.check_eq_ok_iff.mp passed
    cases isMap
  · exact ⟨refusal, .inr (Document.graph_eq_error (Document.decode_of_json decoded) rejected)⟩

/-- Beside a refused text, a text whose findings only warn: the threshold decides. -/
theorem documents_exitCode_mixed :
    ∃ results,
      documents explainedSetup [("flow.json", String.ofList failingLoop), ("list.json", "[]")] =
        .ok results ∧
      (Summary.ofResults results).exitCode (.severity .must) = 2 ∧
      (Summary.ofResults results).exitCode (.severity .should) = 1 := by
  obtain ⟨built, result, parsed, returned, listed⟩ := ofGraph_failingLoop
  obtain ⟨failure, refusal, failed, isRefusal⟩ := Document.isRefused_iff.mp isRefused_list
  have returns : documents explainedSetup
      [("flow.json", String.ofList failingLoop), ("list.json", "[]")] =
        .ok [result, { path := "list.json", issues := refusal.issues }] :=
    Sequence.mapM_eq_ok_iff.mpr (.cons
      ((document_of_graph parsed explainedSetup "flow.json").trans returned) (.cons
      (document_of_refusal failed isRefusal explainedSetup "list.json") .nil))
  have severities : result.findings.map Finding.severity = [.should, .should, .should, .should] := by
    have second := congrArg (List.map fun seen => seen.2.1) listed
    rw [List.map_map] at second
    exact second
  refine ⟨_, returns, ?_, ?_⟩
  · refine (documents_exitCode returns (.severity .must)).2.1.mpr
      ⟨?_, ("list.json", "[]"), by simp, isRefused_list⟩
    rintro ⟨severity, isMust, other, isResult, finding, member, reaches⟩
    cases isMust
    rcases List.mem_pair.mp isResult with isWarned | isRefused
    · rw [isWarned] at member
      have isWarning : finding.severity ∈ result.findings.map Finding.severity :=
        List.mem_map_of_mem member
      have notMust : ∀ severity ∈ result.findings.map Finding.severity,
          ¬ severity.rank ≤ Severity.must.rank := by
        rw [severities]
        decide
      exact notMust _ isWarning reaches
    · rw [isRefused] at member
      cases member
  · refine (documents_exitCode returns (.severity .should)).1.mpr ?_
    have isWarning : Severity.should ∈ result.findings.map Finding.severity := by
      rw [severities]
      exact List.mem_cons_self
    obtain ⟨finding, member, warns⟩ := List.mem_map.mp isWarning
    exact ⟨.should, rfl, result, List.mem_cons_self, finding, member, by rw [warns]⟩

end Lint

end WorkflowLint
