import WorkflowLint.Decimal.Shortest
import WorkflowLint.Json.Writer
import WorkflowLint.Lint.Result

/-!
Contract: reports over several results.

Owns: the report for people, with one block a file, and the report as JSON.
-/

set_option autoImplicit false

namespace WorkflowLint.Report

def padRight (width : Nat) (text : String) : String :=
  text ++ String.ofList (List.replicate (width - text.length) ' ')

def intText (number : Int) : String := String.ofList (Decimal.ofInt number)

def location (finding : Finding) : String :=
  match finding.line with
  | some line => finding.path ++ ":" ++ intText line
  | none => finding.path

def severityWord : Severity → String
  | .must => "MUST"
  | .should => "SHOULD"
  | .nit => "NIT"

def seeAlso (finding : Finding) : String :=
  match finding.documentation with
  | some url => if url.isEmpty then "" else "\n      see " ++ url
  | none => ""

def findingText (finding : Finding) : String :=
  "  " ++ location finding ++ "  " ++ padRight 6 (severityWord finding.severity) ++ " " ++
    padRight 4 finding.rule ++ " " ++ finding.message ++ seeAlso finding

def issueText (issue : Issue) : String :=
  "  " ++ issue.path ++ ": " ++ issue.message ++
    (if issue.suggestion.isEmpty then "" else " (" ++ issue.suggestion ++ ")")

/-- The block of a result; a result without findings and issues has none. -/
def block (result : Result) : List String :=
  if !result.isValid then
    (result.path ++ ": invalid workflow") :: result.issues.map issueText
  else if result.findings.isEmpty then []
  else result.path :: (Findings.bySeverity result.findings).map findingText

def closing (summary : Summary) : String :=
  intText summary.files ++ " file(s) checked: " ++ intText summary.must ++ " must, " ++
    intText summary.should ++ " should, " ++ intText summary.nit ++ " nit, " ++
    intText summary.invalid ++ " invalid"

def text (results : List Result) (summary : Summary) : String :=
  let blocks := results.flatMap block
  let lines := if blocks.isEmpty then [] else blocks ++ [""]
  "\n".intercalate (lines ++ [closing summary])

def toValue (results : List Result) (summary : Summary) : Value :=
  .record [("files", .list (results.map Result.toValue)), ("summary", summary.toValue)]

def json (results : List Result) (summary : Summary) : String :=
  Json.encode (toValue results summary)

end WorkflowLint.Report
