import WorkflowLint.Regex.Denylist
import WorkflowLint.Rule.Basic
import WorkflowLint.Value.Leaves
import WorkflowLint.Value.Mention

/-!
Contract: rules on literal texts in parameters.

Owns: rules with a denylist, of which there is one for secrets (R4) and one for literals of an
environment (R9).  The first literal that a pattern of the denylist matches gives the remark of a
node; expressions and empty texts are no literals.
-/

set_option autoImplicit false

namespace WorkflowLint

namespace Rule

/-- The denylist under a key, empty when the block there has none. -/
def denylistAt (key : String) (config : Config) : List String :=
  match config.block? key with
  | some (.denylist block) => block.entries
  | _ => []

def patternsOf (entries : List String) : Except RuleFault (List Regex.Pattern) :=
  entries.mapM fun entry =>
    match Regex.ofEntry entry with
    | .ok pattern => .ok pattern
    | .error fault => .error (.pattern fault)

def isLiteral (text : String) : Bool :=
  !text.isEmpty && !Value.hasExpressionMark text.toList

/-- The first literal of a node that one of the patterns matches. -/
def listedLiteral? (patterns : List Regex.Pattern) (node : Node) : Option String :=
  node.paramsValue.collectTexts.find? fun text =>
    isLiteral text && patterns.any fun pattern => pattern.occursIn text

def denylistRemarks (entries : List String) (message : Node → String → String) (details : String)
    (node : Node) : Except RuleFault (List Remark) := do
  let patterns ← patternsOf entries
  return (listedLiteral? patterns node).toList.map fun text =>
    ⟨node.id, message node text, some details⟩

def denylist (id key : String) (severity? : Option Severity) (message : Node → String → String)
    (details : String) : Rule :=
  { perNode id key severity? fun config _ node =>
      denylistRemarks (denylistAt key config) message details node with
    shape := "HardcodedStringRule" }

end Rule

namespace Rules

/-- R4: parameters hold no secrets. -/
def secrets : Rule :=
  .denylist "R4" "secrets" none
    (fun node _ =>
      "Node " ++ node.label ++
        " contains a hardcoded secret (move it to credentials/env vars)")
    ("Move API keys/tokens into Credentials or environment variables; " ++
      "the workflow should only reference \x7b\x7b$credentials.*\x7d\x7d expressions.")

def excerpt (length : Nat) (text : String) : String :=
  String.ofList (text.toList.take length)

/-- R9: parameters hold no literals of an environment. -/
def configLiterals : Rule :=
  .denylist "R9" "config_literals" none
    (fun node text =>
      "Node " ++ node.label ++ " contains env-specific literal \"" ++ excerpt 40 text ++
        "\" (move to expression/credential)")
    ("Move environment-specific URLs/IDs into expressions or credentials " ++
      "(e.g., \x7b\x7b$env.API_BASE_URL\x7d\x7d) so the workflow is portable.")

end Rules

end WorkflowLint
