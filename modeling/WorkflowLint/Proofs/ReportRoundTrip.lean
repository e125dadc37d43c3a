import WorkflowLint.Proofs.JsonRoundTrip
import WorkflowLint.Proofs.Sequence
import WorkflowLint.Report.Render

/-!
Contract: what a program gets that reads the JSON report.

Owns: the readers of findings, issues, files and summaries.  A required field has to be there, an
optional field that is absent is none, and every field has to be of its kind.

Main statement: the report decodes, and its readers give back each file with its path, its verdict, its
findings and its issues, in order, and the counts of the summary.
-/

set_option autoImplicit false

namespace WorkflowLint

/-! ## Fields of records -/

namespace Value

variable {α : Type}

def int? : Value → Option Int
  | .int number => some number
  | _ => none

def bool? : Value → Option Bool
  | .bool flag => some flag
  | _ => none

def items? : Value → Option (List Value)
  | .list items => some items
  | _ => none

/-- The value of a field, if the value is a mapping that has it. -/
def member? (name : String) (value : Value) : Option Value :=
  value.entries?.bind (lookupText name)

/-- A field that has to be there. -/
def required? (read : Value → Option α) (name : String) (value : Value) : Option α :=
  (value.member? name).bind read

/-- A field that may be left out. -/
def optional? (read : Value → Option α) (name : String) (value : Value) : Option (Option α) :=
  match value.member? name with
  | some found => (read found).map some
  | none => some none

def listOf? (read : Value → Option α) (value : Value) : Option (List α) :=
  value.items?.bind (List.mapM read)

private theorem lookupText_entriesOf (name : String) (fields : List (String × Value)) :
    lookupText name (entriesOf fields) = fields.lookup name := by
  induction fields with
  | nil => rfl
  | cons field others inductionHypothesis =>
      show lookupText name ((.str field.1, field.2) :: entriesOf others) = _
      rw [lookupText, List.lookup_cons, inductionHypothesis]
      cases name == field.1 <;> rfl

theorem member?_record (name : String) (fields : List (String × Value)) :
    (record fields).member? name = fields.lookup name :=
  lookupText_entriesOf name fields

@[simp]
theorem lookup_optionalField (name : String) (write : α → Value) (content : Option α) :
    (optionalField name write content).lookup name = content.map write := by
  cases content with
  | none => rfl
  | some inner => simp [optionalField]

@[simp]
theorem lookup_optionalField_of_ne {name other : String} (differs : other ≠ name)
    (write : α → Value) (content : Option α) :
    (optionalField name write content).lookup other = none := by
  cases content with
  | none => rfl
  | some inner =>
      rw [optionalField, Option.toList_some, List.map_singleton, List.lookup_cons,
        beq_false_of_ne differs]
      rfl

theorem names_optionalField (name : String) (write : α → Value) (content : Option α) :
    ((optionalField name write content).map Prod.fst).Sublist [name] := by
  cases content with
  | none => exact List.nil_sublist _
  | some inner => exact List.Sublist.refl _

theorem required?_record {read : Value → Option α} {name : String} {fields : List (String × Value)}
    {written : Value} {content : α} (found : fields.lookup name = some written)
    (back : read written = some content) : (record fields).required? read name = some content := by
  rw [required?, member?_record, found, Option.bind_some, back]

theorem optional?_record {read : Value → Option α} {write : α → Value} {name : String}
    {fields : List (String × Value)} {content : Option α}
    (found : fields.lookup name = content.map write)
    (back : ∀ inner, read (write inner) = some inner) :
    (record fields).optional? read name = some content := by
  rw [optional?, member?_record, found]
  cases content with
  | none => rfl
  | some inner => simp [back]

theorem listOf?_map {read : Value → Option α} {write : α → Value} {items : List α}
    (each : ∀ item ∈ items, read (write item) = some item) :
    listOf? read (.list (items.map write)) = some items := by
  show (items.map write).mapM read = some items
  rw [Sequence.mapM_eq_some_iff, List.forall₂_map_left_iff]
  exact List.forall₂_same.mpr each

end Value

/-! ## Readers -/

open Value (required? optional?)

def Finding.ofValue? (value : Value) : Option Finding := do
  let rule ← value.required? Value.text? "rule"
  let label ← value.required? Value.text? "severity"
  let severity ← Severity.ofLabel? label
  let path ← value.required? Value.text? "path"
  let message ← value.required? Value.text? "message"
  let details ← value.optional? Value.text? "raw_details"
  let nodeId ← value.optional? Value.text? "nodeId"
  let line ← value.optional? Value.int? "line"
  let documentation ← value.optional? Value.text? "documentationUrl"
  return ⟨rule, severity, path, message, details, nodeId, line, documentation⟩

def Issue.ofValue? (value : Value) : Option Issue := do
  let path ← value.required? Value.text? "path"
  let message ← value.required? Value.text? "message"
  let suggestion ← value.required? Value.text? "suggestion"
  return ⟨path, message, suggestion⟩

/-- What a report says about one file. -/
structure FileReport where
  path : String
  valid : Bool
  findings : List Finding
  issues : List Issue

def FileReport.ofValue? (value : Value) : Option FileReport := do
  let path ← value.required? Value.text? "path"
  let valid ← value.required? Value.bool? "valid"
  let findings ← value.required? (Value.listOf? Finding.ofValue?) "findings"
  let issues ← value.required? (Value.listOf? Issue.ofValue?) "errors"
  return ⟨path, valid, findings, issues⟩

def Summary.ofValue? (value : Value) : Option Summary := do
  let files ← value.required? Value.int? "total_files"
  let findings ← value.required? Value.int? "total_findings"
  let severities ← value.member? "by_severity"
  let must ← severities.required? Value.int? "must"
  let should ← severities.required? Value.int? "should"
  let nit ← severities.required? Value.int? "nit"
  let invalid ← value.required? Value.int? "errors"
  return ⟨files, findings, must, should, nit, invalid⟩

/-- The files and the summary of a report. -/
def Report.ofValue? (value : Value) : Option (List FileReport × Summary) := do
  let files ← value.required? (Value.listOf? FileReport.ofValue?) "files"
  let summary ← value.required? Summary.ofValue? "summary"
  return (files, summary)

/-! ## Records read back -/

theorem Severity.ofLabel?_label (severity : Severity) : ofLabel? severity.label = some severity := by
  cases severity <;> rfl

namespace Finding

theorem ofValue?_toValue (finding : Finding) : ofValue? finding.toValue = some finding := by
  have text (name content : String) (found : finding.fields.lookup name = some (.str content)) :
      finding.toValue.required? Value.text? name = some content :=
    Value.required?_record found rfl
  have optionalText (name : String) (content : Option String)
      (found : finding.fields.lookup name = content.map .str) :
      finding.toValue.optional? Value.text? name = some content :=
    Value.optional?_record found fun _ => rfl
  have optionalInt (name : String) (content : Option Int)
      (found : finding.fields.lookup name = content.map .int) :
      finding.toValue.optional? Value.int? name = some content :=
    Value.optional?_record found fun _ => rfl
  unfold ofValue?
  rw [text "rule" finding.rule (by simp [fields]),
    text "severity" finding.severity.label (by simp [fields, List.lookup_cons]),
    text "path" finding.path (by simp [fields, List.lookup_cons]),
    text "message" finding.message (by simp [fields, List.lookup_cons]),
    optionalText "raw_details" finding.details
      (by simp [fields, List.lookup_append, List.lookup_cons]),
    optionalText "nodeId" finding.nodeId
      (by simp [fields, List.lookup_append, List.lookup_cons]),
    optionalInt "line" finding.line
      (by simp [fields, List.lookup_append, List.lookup_cons]),
    optionalText "documentationUrl" finding.documentation
      (by simp [fields, List.lookup_append, List.lookup_cons])]
  simp only [Option.bind_eq_bind, Option.bind_some, Severity.ofLabel?_label]
  rfl

theorem isExact_toValue {levels : Nat} {finding : Finding}
    (convertible : ∀ line ∈ finding.line, Decimal.IsConvertible line) :
    finding.toValue.IsExact (levels + 1) := by
  have names : (finding.fields.map Prod.fst).Sublist ["rule", "severity", "path", "message",
      "raw_details", "nodeId", "line", "documentationUrl"] := by
    simp only [fields, List.map_append]
    exact ((((List.Sublist.refl _).append (Value.names_optionalField _ _ _)).append
      (Value.names_optionalField _ _ _)).append (Value.names_optionalField _ _ _)).append
      (Value.names_optionalField _ _ _)
  refine .record (names.nodup (by decide)) ?_
  simp only [fields, List.forall_mem_append, List.forall_mem_cons]
  refine ⟨⟨⟨⟨⟨.str _, .str _, .str _, .str _, by simp⟩, ?_⟩, ?_⟩, ?_⟩, ?_⟩
  · exact Value.forall_mem_optionalField.mpr fun inner _ => .str inner
  · exact Value.forall_mem_optionalField.mpr fun inner _ => .str inner
  · exact Value.forall_mem_optionalField.mpr fun line isLine => .int (convertible line isLine)
  · exact Value.forall_mem_optionalField.mpr fun inner _ => .str inner

end Finding

theorem Issue.ofValue?_toValue (issue : Issue) : ofValue? issue.toValue = some issue := rfl

theorem Issue.isExact_toValue {levels : Nat} (issue : Issue) : issue.toValue.IsExact (levels + 1) := by
  refine .record (by decide : ["path", "message", "suggestion"].Nodup) ?_
  simp only [List.forall_mem_cons]
  exact ⟨.str _, .str _, .str _, by simp⟩

namespace Result

/-- The lines of all findings can be written. -/
def HasConvertibleLines (result : Result) : Prop :=
  ∀ finding ∈ result.findings, ∀ line ∈ finding.line, Decimal.IsConvertible line

instance (result : Result) : Decidable result.HasConvertibleLines :=
  inferInstanceAs (Decidable (∀ finding ∈ result.findings, ∀ line ∈ finding.line, _))

theorem ofValue?_toValue (result : Result) :
    FileReport.ofValue? result.toValue =
      some ⟨result.path, result.isValid, result.findings, result.issues⟩ := by
  have findings : result.toValue.required? (Value.listOf? Finding.ofValue?) "findings" =
      some result.findings :=
    Value.required?_record rfl (Value.listOf?_map fun finding _ => finding.ofValue?_toValue)
  have issues : result.toValue.required? (Value.listOf? Issue.ofValue?) "errors" =
      some result.issues :=
    Value.required?_record rfl (Value.listOf?_map fun issue _ => issue.ofValue?_toValue)
  unfold FileReport.ofValue?
  rw [findings, issues]
  rfl

theorem isExact_toValue {levels : Nat} {result : Result}
    (convertible : result.HasConvertibleLines) : result.toValue.IsExact (levels + 3) := by
  refine .record (by decide : ["path", "valid", "findings", "errors"].Nodup) ?_
  simp only [List.forall_mem_cons]
  refine ⟨.str _, .bool _, .list ?_, .list ?_, by simp⟩
  · exact List.forall_mem_map.mpr fun finding member =>
      Finding.isExact_toValue (convertible finding member)
  · exact List.forall_mem_map.mpr fun issue _ => issue.isExact_toValue

end Result

namespace Summary

def counts (summary : Summary) : List Int :=
  [summary.files, summary.findings, summary.must, summary.should, summary.nit, summary.invalid]

theorem ofValue?_toValue (summary : Summary) : ofValue? summary.toValue = some summary := rfl

theorem isExact_toValue {levels : Nat} {summary : Summary}
    (convertible : ∀ number ∈ summary.counts, Decimal.IsConvertible number) :
    summary.toValue.IsExact (levels + 2) := by
  simp only [counts, List.forall_mem_cons] at convertible
  obtain ⟨files, findings, must, should, nit, invalid, _⟩ := convertible
  refine .record (by decide : ["total_files", "total_findings", "by_severity", "errors",
    "has_blocking_issues"].Nodup) ?_
  simp only [List.forall_mem_cons]
  refine ⟨.int files, .int findings, ?_, .int invalid, .bool _, by simp⟩
  refine .record (by decide : ["must", "should", "nit"].Nodup) ?_
  simp only [List.forall_mem_cons]
  exact ⟨.int must, .int should, .int nit, by simp⟩

end Summary

/-! ## The report -/

namespace Report

section RoundTrip

variable {results : List Result} {summary : Summary}

theorem isExact_toValue (lines : ∀ result ∈ results, result.HasConvertibleLines)
    (counts : ∀ number ∈ summary.counts, Decimal.IsConvertible number) :
    (toValue results summary).IsExact nestingLimit := by
  rw [show nestingLimit = 395 + 5 from rfl]
  refine .record (by decide : ["files", "summary"].Nodup) ?_
  simp only [List.forall_mem_cons]
  refine ⟨.list ?_, Summary.isExact_toValue counts, by simp⟩
  exact List.forall_mem_map.mpr fun result member => Result.isExact_toValue (lines result member)

theorem ofValue?_toValue (results : List Result) (summary : Summary) :
    ofValue? (toValue results summary) =
      some (results.map fun result =>
        ⟨result.path, result.isValid, result.findings, result.issues⟩, summary) := by
  have files : (toValue results summary).required? (Value.listOf? FileReport.ofValue?) "files" =
      some (results.map fun result =>
        ⟨result.path, result.isValid, result.findings, result.issues⟩) := by
    refine Value.required?_record rfl ?_
    show (results.map Result.toValue).mapM FileReport.ofValue? = _
    rw [Sequence.mapM_eq_some_iff, List.forall₂_map_left_iff, List.forall₂_map_right_iff]
    exact List.forall₂_same.mpr fun result _ => result.ofValue?_toValue
  unfold ofValue?
  rw [files]
  rfl

/-- The JSON report decodes, and reading it gives back every file in order, with its path, its
findings, its issues and whether it has none, and the counts of the summary. -/
theorem json_reads_back (lines : ∀ result ∈ results, result.HasConvertibleLines)
    (counts : ∀ number ∈ summary.counts, Decimal.IsConvertible number) :
    ∃ document files, Json.decode (json results summary).toList = .ok document ∧
      ofValue? document = some (files, summary) ∧
      List.Forall₂ (fun (result : Result) (file : FileReport) =>
        file.path = result.path ∧ (file.valid = true ↔ result.issues = []) ∧
          file.findings = result.findings ∧ file.issues = result.issues) results files := by
  refine ⟨_, _, Json.decode_encode (isExact_toValue lines counts), ofValue?_toValue _ _, ?_⟩
  rw [List.forall₂_map_right_iff]
  exact List.forall₂_same.mpr fun result _ => ⟨rfl, List.isEmpty_iff, rfl, rfl⟩

end RoundTrip

/-- Texts with every kind of escape, empty texts beside absent ones, and a file with an issue. -/
def awkwardResults : List Result :=
  [{ path := "a \"b\" \\ \t.json"
     findings :=
       [{ rule := "R1", severity := .must, path := "\u0000\u001f\u007f", message := "é ✓ 𝄞"
          details := some "", line := some (-120) },
        { rule := "", severity := .nit, path := "", message := "\r\n", nodeId := some "" }] },
    { path := "", issues := [⟨"$", "\u2028", ""⟩] }]

def awkwardSummary : Summary where
  files := 2
  findings := -1
  must := 12345678901234567890

theorem json_reads_back_awkward :
    (∀ result ∈ awkwardResults, result.HasConvertibleLines) ∧
      (∀ number ∈ awkwardSummary.counts, Decimal.IsConvertible number) ∧
      ∃ document files, Json.decode (json awkwardResults awkwardSummary).toList = .ok document ∧
        ofValue? document = some (files, awkwardSummary) ∧
        files.map FileReport.findings = awkwardResults.map Result.findings ∧
        files.map FileReport.valid = [true, false] := by
  have lines : ∀ result ∈ awkwardResults, result.HasConvertibleLines := by decide +kernel
  have counts : ∀ number ∈ awkwardSummary.counts, Decimal.IsConvertible number := by decide +kernel
  obtain ⟨document, files, decoded, read, related⟩ := json_reads_back lines counts
  refine ⟨lines, counts, document, files, decoded, read, ?_⟩
  obtain ⟨clean, laterFiles, ⟨_, cleanValid, cleanFindings, _⟩, later, rfl⟩ :=
    List.forall₂_cons_left_iff.mp related
  obtain ⟨faulty, noFiles, ⟨_, faultyValid, faultyFindings, _⟩, isEmpty, rfl⟩ :=
    List.forall₂_cons_left_iff.mp later
  cases isEmpty
  have isValid : clean.valid = true := cleanValid.mpr rfl
  have isInvalid : faulty.valid = false := by
    rw [Bool.eq_false_iff]
    intro valid
    cases faultyValid.mp valid
  simp only [List.map_cons, List.map_nil, isValid, isInvalid, cleanFindings, faultyFindings,
    awkwardResults, and_self]

end Report

end WorkflowLint
