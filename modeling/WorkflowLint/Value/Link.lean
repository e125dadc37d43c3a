import WorkflowLint.Value.Basic

/-!
Contract: the links inside a connection value.

A link is a mapping with a `node` key.  Links are found through nested lists and tuples, from left
to right; nothing is looked for inside a mapping.
-/

set_option autoImplicit false

namespace WorkflowLint.Value

/-- The key that makes a mapping a link. -/
def linkKey : String := "node"

/-- A mapping with a `node` key. -/
def isLink (entries : List (Value × Value)) : Bool :=
  (lookupText linkKey entries).isSome

mutual

def links : Value → List (List (Value × Value))
  | .list items => linksOfItems items
  | .tuple items => linksOfItems items
  | .map entries => if isLink entries then [entries] else []
  | _ => []

def linksOfItems : List Value → List (List (Value × Value))
  | [] => []
  | item :: rest => links item ++ linksOfItems rest

end

end WorkflowLint.Value
