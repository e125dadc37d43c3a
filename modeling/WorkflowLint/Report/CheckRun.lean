import WorkflowLint.Finding.Basic

/-!
Contract: findings as notes of a check run.

Owns: one note per finding, the worst first, and the conclusion of the check.
-/

set_option autoImplicit false

namespace WorkflowLint

def Severity.noteLevel : Severity → String
  | .must => "failure"
  | .should => "warning"
  | .nit => "notice"

structure CheckNote where
  path : String
  line : Int
  level : String
  message : String
  details : Option String
  deriving DecidableEq

def CheckNote.detailLimit : Nat := 64000

namespace Finding

/-- The line that says where the rule is explained; none without an explanation. -/
def explanation (finding : Finding) : List Char :=
  match finding.documentation with
  | some url => if url.isEmpty then [] else "See examples: ".toList ++ url.toList
  | none => []

/-- The explanation and the details, apart by a blank line when both are there. -/
def noteDetails (finding : Finding) : List Char :=
  let details := (finding.details.getD "").toList
  if finding.explanation.isEmpty then details
  else if details.isEmpty then finding.explanation
  else finding.explanation ++ '\n' :: '\n' :: details

/-- The line of a note, the first when the finding has none. -/
def noteLine (finding : Finding) : Int :=
  match finding.line with
  | some line => if line == 0 then 1 else line
  | none => 1

def note (finding : Finding) : CheckNote where
  path := finding.path
  line := finding.noteLine
  level := finding.severity.noteLevel
  message := finding.rule ++ ": " ++ finding.message
  details :=
    if finding.noteDetails.isEmpty then none
    else some (String.ofList (finding.noteDetails.take CheckNote.detailLimit))

end Finding

def CheckNote.toValue (note : CheckNote) : Value :=
  .record <|
    [("path", Value.str note.path), ("start_line", .int note.line),
      ("end_line", .int note.line), ("annotation_level", .str note.level),
      ("message", .str note.message)] ++
      (note.details.toList.map fun details => ("raw_details", .str details))

namespace Findings

def notes (findings : List Finding) : List CheckNote :=
  (bySeverity findings).map Finding.note

def countText (severity : Severity) (findings : List Finding) : String :=
  toString (count severity findings)

def overview (findings : List Finding) : String :=
  if findings.isEmpty then "No issues found."
  else
    countText .must findings ++ " must-fix, " ++ countText .should findings ++ " should-fix, " ++
      countText .nit findings ++ " nit."

/-- The conclusion: failure when a finding blocks, neutral when one warns. -/
def conclusion (findings : List Finding) : String :=
  if findings.any fun finding => finding.severity == .must then "failure"
  else if findings.any fun finding => finding.severity == .should then "neutral"
  else "success"

end Findings

structure CheckOutput where
  conclusion : String
  title : String
  summary : String
  deriving DecidableEq

namespace CheckOutput

def usualTitle : String := "FlowLint findings"

/-- The output for findings; what is given stands, but an empty conclusion is inferred. -/
def ofFindings (findings : List Finding) (title summary conclusion : Option String) :
    CheckOutput where
  conclusion :=
    if (conclusion.getD "").isEmpty then Findings.conclusion findings else conclusion.getD ""
  title := title.getD usualTitle
  summary := summary.getD (Findings.overview findings)

def toValue (output : CheckOutput) : Value :=
  .record [("conclusion", .str output.conclusion),
    ("output", .record [("title", .str output.title), ("summary", .str output.summary)])]

end CheckOutput

end WorkflowLint
