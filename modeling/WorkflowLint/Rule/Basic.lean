import WorkflowLint.Config.Basic
import WorkflowLint.Graph.Basic
import WorkflowLint.Regex.Fault
import WorkflowLint.Rule.Catalogue
import WorkflowLint.Value.Mention
import WorkflowLint.Value.Number

/-!
Contract: rules and their evaluation.

Owns: what a rule is, why one can stop, and how its remarks become findings.  A rule sees the graph
and the configuration only; path, source lines and severity are added here.
-/

set_option autoImplicit false

namespace WorkflowLint

structure Context where
  path : String
  config : Config
  lines : List (String × Int) := []

inductive RuleFault where
  /-- A number in the parameters is past the largest double. -/
  | number (fault : NumberFault)
  | pattern (fault : Regex.Fault)
  | unwritable
  | spelling (fault : Value.SpellingFault)
  /-- No severity is given, and the catalogue does not know the rule. -/
  | uncatalogued (id : String)
  | unknownSeverity (word : Value)
  | unimplemented
  | raised (message : String)

/-- The wording of a fault; a node that cannot be written has none. -/
def RuleFault.message : RuleFault → String
  | .number fault => fault.message
  | .pattern fault => fault.message
  | .unwritable => ""
  | .spelling fault => fault.message
  | .uncatalogued id => "Metadata for rule " ++ id ++ " not found"
  | .unknownSeverity word => word.quotedText ++ " is not a valid Severity"
  | .unimplemented => ""
  | .raised message => message

def RuleFault.ofSearch : Value.SearchFault → RuleFault
  | .pattern fault => .pattern fault
  | .key fault => .spelling fault

def Severity.ofValue (word : Value) : Except RuleFault Severity :=
  match word.text?.bind ofLabel? with
  | some severity => .ok severity
  | none => .error (.unknownSeverity word)

structure Remark where
  nodeId : String
  message : String
  details : Option String := none
  deriving DecidableEq

/-- A rule: what it is called, where its settings stand, and what it says about a graph. -/
structure Rule where
  id : String
  key : String
  /-- The word for its way of checking. -/
  shape : String
  /-- A severity other than that of the catalogue. -/
  severity? : Option Severity := none
  remarks : Config → Graph → Except RuleFault (List Remark)

namespace Rule

def display (rule : Rule) : String :=
  rule.shape ++ "(" ++ Text.quoted rule.id ++ ", " ++ Text.quoted rule.key ++ ")"

def severity (rule : Rule) : Except RuleFault Severity :=
  match rule.severity?, RuleInfo.find? rule.id with
  | some severity, _ => .ok severity
  | none, some info => .ok info.severity
  | none, none => .error (.uncatalogued rule.id)

def isEnabled (rule : Rule) (config : Config) : Bool :=
  (config.block? rule.key).any Block.enabled

def finding (rule : Rule) (context : Context) (remark : Remark) : Except RuleFault Finding := do
  let severity ← rule.severity
  return { rule := rule.id
           severity := severity
           path := context.path
           message := remark.message
           details := remark.details
           nodeId := some remark.nodeId
           line := context.lines.lookup remark.nodeId }

/-- The findings of a rule; a rule that is off has none. -/
def findings (rule : Rule) (context : Context) (graph : Graph) :
    Except RuleFault (List Finding) := do
  if rule.isEnabled context.config then
    (← rule.remarks context.config graph).mapM (rule.finding context)
  else return []

def perNode (id key : String) (severity? : Option Severity)
    (remarks : Config → Graph → Node → Except RuleFault (List Remark)) : Rule where
  id := id
  key := key
  shape := "NodeRule"
  severity? := severity?
  remarks := fun config graph => List.flatten <$> graph.nodes.mapM (remarks config graph)

def bare (id key : String) (severity? : Option Severity) : Rule where
  id := id
  key := key
  shape := "Rule"
  severity? := severity?
  remarks := fun _ _ => .error .unimplemented

end Rule

end WorkflowLint
