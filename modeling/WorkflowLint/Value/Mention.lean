import WorkflowLint.Regex.Literal
import WorkflowLint.Value.Display
import WorkflowLint.Value.Leaves

/-!
Contract: does a value mention one of some candidate names, and is a text an expression?

A candidate is mentioned by a mapping key or by a text leaf that holds it without regard to case.  All
candidates are sought at once, with one pattern.
-/

set_option autoImplicit false

namespace WorkflowLint.Value

/-- A text or a key of the value itself is accepted; keys are tried in order. -/
def showsText (accepts : List Char → Bool) : Value → Except SpellingFault Bool
  | .str text => .ok (accepts text.toList)
  | .map entries => entries.anyM fun entry => accepts <$> entry.1.spelled
  | _ => .ok false

/-- A text or a key that the predicate accepts is met in a queue of values still to visit.  The keys
of a mapping are tried when the mapping is visited, its values wait at the end of the queue. -/
def meetsText (accepts : List Char → Bool) : List Value → Except SpellingFault Bool
  | [] => .ok false
  | value :: queue => do
      if ← value.showsText accepts then return true
      else meetsText accepts (queue ++ value.children)
termination_by queue => weightItems queue
decreasing_by
  simp only [weightItems, weightItems_append, weight_eq_children]
  omega

inductive SearchFault where
  | pattern (fault : Regex.Fault)
  | key (fault : SpellingFault)

/-- A value that is not empty has a key or a text leaf that holds one of the candidates. -/
def mentions (candidates : List String) (value : Value) : Except SearchFault Bool :=
  if value.isEmpty || candidates.isEmpty then .ok false
  else
    match Regex.compile (Regex.anyOf candidates) true with
    | .ok pattern =>
        (meetsText (fun text => (pattern.search? text).isSome) [value]).mapError .key
    | .error fault => .error (.pattern fault)

def hasExpressionMark : List Char → Bool
  | '{' :: '{' :: _ => true
  | _ :: rest => hasExpressionMark rest
  | [] => false

/-- A text that the workflow engine evaluates at run time. -/
def isExpression : Value → Bool
  | .str text => hasExpressionMark text.toList
  | _ => false

end WorkflowLint.Value
