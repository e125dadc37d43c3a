import WorkflowLint.Document.Issue
import WorkflowLint.Finding.Basic
import WorkflowLint.Graph.Basic

/-!
Contract: what comes out for documents.

Owns: the result for one document, which has findings or the issues that stopped it, the summary over
several results, and the exit code of a summary.
-/

set_option autoImplicit false

namespace WorkflowLint

structure Result where
  path : String
  graph : Option Graph := none
  findings : List Finding := []
  issues : List Issue := []

def Issue.toValue (issue : Issue) : Value :=
  .record [("path", .str issue.path), ("message", .str issue.message),
    ("suggestion", .str issue.suggestion)]

namespace Result

def isValid (result : Result) : Bool := result.issues.isEmpty

def toValue (result : Result) : Value :=
  .record [("path", .str result.path), ("valid", .bool result.isValid),
    ("findings", .list (result.findings.map Finding.toValue)),
    ("errors", .list (result.issues.map Issue.toValue))]

end Result

structure Summary where
  files : Int := 0
  findings : Int := 0
  must : Int := 0
  should : Int := 0
  nit : Int := 0
  invalid : Int := 0
  deriving DecidableEq

/-- From which severity on findings make a run fail. -/
inductive Threshold where
  | severity (severity : Severity)
  | never
  deriving DecidableEq

def Threshold.ofLabel? (label : String) : Option Threshold :=
  if label == "never" then some .never else (Severity.ofLabel? label).map .severity

namespace Summary

def ofResults (results : List Result) : Summary :=
  let findings := results.flatMap Result.findings
  { files := results.length
    findings := findings.length
    must := Findings.count .must findings
    should := Findings.count .should findings
    nit := Findings.count .nit findings
    invalid := results.countP fun result => !result.isValid }

def count (summary : Summary) : Severity → Int
  | .must => summary.must
  | .should => summary.should
  | .nit => summary.nit

def atLeast (summary : Summary) (threshold : Severity) : Int :=
  (([.must, .should, .nit].filter fun severity => severity.reaches threshold).map
    summary.count).foldr (· + ·) 0

def blocks (summary : Summary) : Bool := 0 < summary.must

def toValue (summary : Summary) : Value :=
  .record [("total_files", .int summary.files), ("total_findings", .int summary.findings),
    ("by_severity", .record
      [("must", .int summary.must), ("should", .int summary.should), ("nit", .int summary.nit)]),
    ("errors", .int summary.invalid), ("has_blocking_issues", .bool summary.blocks)]

def fails (summary : Summary) : Threshold → Bool
  | .severity severity => 0 < summary.atLeast severity
  | .never => false

/-- The exit code: 1 when findings reach the threshold, else 2 when documents are invalid, else 0. -/
def exitCode (summary : Summary) (threshold : Threshold) : Nat :=
  if summary.fails threshold then 1
  else if summary.invalid != 0 then 2
  else 0

end Summary

end WorkflowLint
