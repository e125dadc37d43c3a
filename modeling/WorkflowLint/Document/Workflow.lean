import WorkflowLint.Document.Decoding
import WorkflowLint.Document.Outline

/-!
Contract: from the text of a workflow to its graph.

A text is decoded, checked against the workflow schema and its references, and turned into a graph.
-/

set_option autoImplicit false

namespace WorkflowLint.Document

inductive Failure where
  | undecoded (fault : Fault)
  | rejected (rejection : Rejection)

def read (schema : Schema) (text : String) : Except Failure Outline :=
  match decode text.toList with
  | .error fault => .error (.undecoded fault)
  | .ok document =>
      match check schema document >>= outline text.toList with
      | .ok outline => .ok outline
      | .error rejection => .error (.rejected rejection)

def graph (text : String) : Except Failure Graph :=
  match read Schema.workflow text with
  | .error failure => .error failure
  | .ok outline =>
      match outline.toGraph? with
      | some graph => .ok graph
      | none => .error (.rejected (.misfit .notText))

end WorkflowLint.Document
