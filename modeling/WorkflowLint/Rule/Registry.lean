import WorkflowLint.Rule.ErrorPaths
import WorkflowLint.Rule.Flow
import WorkflowLint.Rule.Literals
import WorkflowLint.Rule.Loops
import WorkflowLint.Rule.Naming
import WorkflowLint.Rule.Retries

/-!
Contract: all rules, run over one graph.

Owns: the order of the rules, the rules that a caller adds, and the concatenation of their findings.
A rule that stops ends the whole run.
-/

set_option autoImplicit false

namespace WorkflowLint

/-- A check that gives findings itself. -/
abbrev Check := Context → Graph → Except RuleFault (List Finding)

namespace Rules

def builtin : List Rule :=
  [rateLimitRetry, errorHandling, idempotency, secrets, deadEnds, longRunning, alertLogEnforcement,
    unusedData, configLiterals, namingConvention, deprecatedNodes, unhandledErrorPath,
    webhookAcknowledgment, retryAfterCompliance]

def find? (id : String) : Option Rule :=
  builtin.find? fun rule => rule.id == id

def run (checks : List Check) (context : Context) (graph : Graph) :
    Except RuleFault (List Finding) :=
  List.flatten <$> checks.mapM fun check => check context graph

/-- The findings of all rules, then those of further checks. -/
def runAll (context : Context) (graph : Graph) (further : List Check) :
    Except RuleFault (List Finding) :=
  run (builtin.map Rule.findings ++ further) context graph

end Rules

end WorkflowLint
