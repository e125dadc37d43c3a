import WorkflowLint.Document.Workflow
import WorkflowLint.Lint.Result
import WorkflowLint.Rule.Registry

/-!
Contract: the check of workflow texts.

Owns: the way from a text to its result.  A text that is refused gives a result with issues; only a
fault of a rule, or of a scalar in the text, leaves no result.
-/

set_option autoImplicit false

namespace WorkflowLint

def Document.Failure.refusal? : Document.Failure → Option Refusal
  | .undecoded (.refused refusal) => some refusal
  | .rejected (.refused refusal) => some refusal
  | _ => none

namespace Lint

inductive Fault where
  | document (failure : Document.Failure)
  | rule (fault : RuleFault)

structure Setup where
  config : Config
  /-- Where rules are explained; empty when they are explained nowhere. -/
  documentationBase : String
  further : List Check := []

def dropSlashes (text : String) : String :=
  String.ofList (text.toList.reverse.dropWhile (· == '/')).reverse

/-- Add where the rule of a finding is explained, for rules of the catalogue. -/
def explain (base : String) (finding : Finding) : Finding :=
  if finding.documentation.isNone && (RuleInfo.find? finding.rule).isSome then
    { finding with documentation := some (base ++ "/" ++ finding.rule) }
  else finding

def explained (base : String) (findings : List Finding) : List Finding :=
  if (dropSlashes base).isEmpty then findings else findings.map (explain (dropSlashes base))

def ofGraph (setup : Setup) (path : String) (graph : Graph) : Except Fault Result :=
  match Rules.runAll ⟨path, setup.config, graph.nodeLines⟩ graph setup.further with
  | .ok findings =>
      .ok { path := path
            graph := some graph
            findings := explained setup.documentationBase findings }
  | .error fault => .error (.rule fault)

def document (setup : Setup) (path text : String) : Except Fault Result :=
  match Document.graph text with
  | .ok graph => ofGraph setup path graph
  | .error failure =>
      match failure.refusal? with
      | some refusal => .ok { path := path, issues := refusal.issues }
      | none => .error (.document failure)

def documents (setup : Setup) (files : List (String × String)) : Except Fault (List Result) :=
  files.mapM fun (path, text) => document setup path text

end Lint

end WorkflowLint
