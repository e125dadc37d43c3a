import WorkflowLint.Rule.Basic
import WorkflowLint.Text.Lowercase

/-!
Contract: rules on what nodes are called and on their types.

Owns: the rule against generic names (R10) and the rule against deprecated types (R11).
-/

set_option autoImplicit false

namespace WorkflowLint.Rules

/-- The node has no name, or one of the generic names without regard to case. -/
def isGeneric (names : List String) (node : Node) : Bool :=
  node.nameText.isEmpty || (names.map Text.lower).contains (Text.lower node.nameText)

def genericName (node : Node) : Remark where
  nodeId := node.id
  message :=
    "Node " ++ node.id ++ " uses a generic name \"" ++ node.nameText ++
      "\" (rename it to describe the action)"
  details := some <|
    "Rename the node to describe its purpose (e.g., \"Check subscription status\" instead of \"IF\") " ++
    "for easier reviews and debugging."

/-- R10: names say what a node does. -/
def namingConvention : Rule :=
  .perNode "R10" "naming_convention" none fun config _ node =>
    let names := (config.rules.namingConvention.map NamingBlock.genericNames).getD []
    .ok (if isGeneric names node then [genericName node] else [])

def deprecatedTypes : List (String × String) :=
  [("n8n-nodes-base.splitInBatches", "Use Loop over items instead"),
    ("n8n-nodes-base.executeWorkflow", "Use Execute Workflow (Sub-Workflow) instead")]

def deprecatedType (node : Node) (hint : String) : Remark where
  nodeId := node.id
  message :=
    "Node " ++ node.label ++ " uses deprecated type " ++ node.type ++ " (replace with " ++ hint ++
      ")"
  details := some <|
    "Replace this node with " ++ hint ++ " so future n8n upgrades don't break the workflow."

/-- R11: no node has a deprecated type. -/
def deprecatedNodes : Rule :=
  .perNode "R11" "deprecated_nodes" none fun _ _ node =>
    .ok ((deprecatedTypes.lookup node.type).toList.map (deprecatedType node))

end WorkflowLint.Rules
