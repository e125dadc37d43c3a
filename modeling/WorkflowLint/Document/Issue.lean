/-!
Contract: what is wrong with a document.

Owns: one issue, and a refusal, which lists the issues of a document that is not accepted.
-/

set_option autoImplicit false

namespace WorkflowLint

/-- One problem of a document: where, what, and what to do about it. -/
structure Issue where
  path : String
  message : String
  suggestion : String
  deriving DecidableEq

inductive Refusal where
  | undecodable (reason : String)
  | invalid (first : Issue) (others : List Issue)
  deriving DecidableEq

namespace Refusal

def issues : Refusal → List Issue
  | .undecodable reason =>
      [{ path := "$"
         message := "Document is neither valid JSON nor valid YAML: " ++ reason
         suggestion := "Export the workflow again or fix the syntax error reported above." }]
  | .invalid first others => first :: others

def ofIssues? : List Issue → Option Refusal
  | [] => none
  | first :: others => some (.invalid first others)

def message (refusal : Refusal) : String :=
  "Workflow validation failed: " ++ toString refusal.issues.length ++ " error(s)"

end Refusal

end WorkflowLint
