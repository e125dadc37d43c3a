import WorkflowLint.Value.Basic

/-!
Contract: findings and their severities.

Owns: the record of one defect, the order by severity, and the count of each severity.
-/

set_option autoImplicit false

namespace WorkflowLint

/-- How much a finding matters: it blocks, warns or informs. -/
inductive Severity where
  | must
  | should
  | nit
  deriving DecidableEq

namespace Severity

def rank : Severity → Nat
  | .must => 0
  | .should => 1
  | .nit => 2

def label : Severity → String
  | .must => "must"
  | .should => "should"
  | .nit => "nit"

def ofLabel? : String → Option Severity
  | "must" => some .must
  | "should" => some .should
  | "nit" => some .nit
  | _ => none

def reaches (severity threshold : Severity) : Bool := severity.rank ≤ threshold.rank

end Severity

structure Finding where
  rule : String
  severity : Severity
  path : String
  message : String
  details : Option String := none
  nodeId : Option String := none
  line : Option Int := none
  documentation : Option String := none
  deriving DecidableEq

def Finding.fields (finding : Finding) : List (String × Value) :=
  [("rule", Value.str finding.rule), ("severity", .str finding.severity.label),
    ("path", .str finding.path), ("message", .str finding.message)] ++
    Value.optionalField "raw_details" .str finding.details ++
    Value.optionalField "nodeId" .str finding.nodeId ++
    Value.optionalField "line" .int finding.line ++
    Value.optionalField "documentationUrl" .str finding.documentation

def Finding.toValue (finding : Finding) : Value := .record finding.fields

namespace Findings

/-- The worst first; findings of one severity keep their order. -/
def bySeverity (findings : List Finding) : List Finding :=
  findings.mergeSort fun left right => left.severity.rank ≤ right.severity.rank

def count (severity : Severity) (findings : List Finding) : Nat :=
  findings.countP fun finding => finding.severity == severity

end Findings

end WorkflowLint
