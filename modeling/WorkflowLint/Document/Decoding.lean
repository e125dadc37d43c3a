import WorkflowLint.Document.Issue
import WorkflowLint.Json.Reader
import WorkflowLint.Yaml.Meaning

/-!
Contract: the value of a document text.

A document is JSON, or else YAML in the document dialect.  A text that is neither is refused with
the reasons why it is not the one and not the other.  Numbers too long to convert, and YAML scalars that
contradict their tags, are faults of their own and no refusals.
-/

set_option autoImplicit false

namespace WorkflowLint.Document

inductive Fault where
  | refused (refusal : Refusal)
  /-- A JSON integer has too many digits. -/
  | tooManyDigits (count : Nat)
  /-- A YAML scalar contradicts its tag. -/
  | badScalar (fault : Yaml.Fault)
  | declined (content : Declined)

def decode (text : List Char) : Except Fault Value :=
  match Json.decode text with
  | .ok value => .ok value
  | .error (.tooManyDigits count) => .error (.tooManyDigits count)
  | .error (.declined content) => .error (.declined content)
  | .error (.malformed cause) =>
      match Yaml.decode .document text with
      | .ok value => .ok value
      | .error .unreadable =>
          .error (.refused (.undecodable (cause.message ++ "; " ++ Yaml.Fault.unreadable.message)))
      | .error (.declined content) => .error (.declined content)
      | .error fault => .error (.badScalar fault)

end WorkflowLint.Document
