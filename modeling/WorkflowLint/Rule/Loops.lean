import WorkflowLint.Classification
import WorkflowLint.Rule.Basic

/-!
Contract: the rule on long loops (R6).

Owns: where a loop states its number of iterations and its timeout, and when they are too large.  A
loop without a number of iterations, or with zero, is unbounded.
-/

set_option autoImplicit false

namespace WorkflowLint.Rules

def iterationPaths : List String :=
  ["maxIterations", "maxIteration", "limit", "options.maxIterations"]

def timeoutPaths : List String := ["timeout", "timeoutMs", "options.timeout"]

def exceeds (number : Float) (limit : Int) : Bool :=
  (Decimal.Binary.ofFloat number).compareInt limit == some .gt

/-- A limit that is given and not zero is exceeded. -/
def exceedsGiven (number : Float) (limit : Option Int) : Bool :=
  limit.any fun bound => bound != 0 && exceeds number bound

def limitText : Option Int → Except RuleFault String
  | some limit => (Value.int limit).spelled.map String.ofList |>.mapError .spelling
  | none => .ok "None"

def numberText (number : Float) : String := String.ofList (Decimal.shown number)

def manyIterations (node : Node) (iterations : Option Float) (limit : String) : Remark where
  nodeId := node.id
  message :=
    "Node " ++ node.label ++ " allows " ++ (iterations.map numberText).getD "unbounded" ++
      " iterations (limit " ++ limit ++ "; set a lower cap)"
  details := some <|
    "Set Options > Max iterations to at most " ++ limit ++
    " or split the processing into smaller batches."

def longTimeout (node : Node) (timeout : Float) (limit : String) : Remark where
  nodeId := node.id
  message :=
    "Node " ++ node.label ++ " uses timeout " ++ numberText timeout ++ "ms (limit " ++ limit ++
      "ms; shorten the timeout or break work apart)"
  details := some <|
    "Lower the timeout to at most " ++ limit ++
    "ms or split the workflow so no single step blocks for too long."

def limitRemarks (passed : Bool) (limit : Option Int) (remark : String → Remark) :
    Except RuleFault (List Remark) :=
  if passed then (limitText limit).map fun shown => [remark shown] else .ok []

/-- A number of iterations without a bound, or past the limit. -/
def iteratesLong (limit : Option Int) : Option Float → Bool
  | none => true
  | some iterations => iterations == 0.0 || exceedsGiven iterations limit

def readParam (node : Node) (paths : List String) : Except RuleFault (Option Float) :=
  match node.paramsValue.numberAt paths with
  | .ok number => .ok number
  | .error fault => .error (.number fault)

def iterationRemarks (limit : Option Int) (node : Node) : Except RuleFault (List Remark) := do
  let iterations ← readParam node iterationPaths
  limitRemarks (iteratesLong limit iterations) limit (manyIterations node iterations)

/-- A timeout past the limit; a timeout of zero is none. -/
def waitsLong (limit : Option Int) (timeout : Float) : Bool :=
  timeout != 0.0 && exceedsGiven timeout limit

/-- The remarks on the timeout of a loop; without a limit it is not looked at. -/
def timeoutRemarks (limit : Option Int) (node : Node) : Except RuleFault (List Remark) :=
  if limit.getD 0 == 0 then .ok []
  else do
    match ← readParam node timeoutPaths with
    | some timeout => limitRemarks (waitsLong limit timeout) limit (longTimeout node timeout)
    | none => return []

def loopRemarks (block : LongRunningBlock) (node : Node) : Except RuleFault (List Remark) := do
  let first ← iterationRemarks block.maxIterations node
  let second ← timeoutRemarks block.timeoutMs node
  return first ++ second

/-- R6: loops end soon. -/
def longRunning : Rule :=
  .perNode "R6" "long_running" none fun config _ node =>
    match config.rules.longRunning with
    | some block => if isLoop node.type then loopRemarks block node else .ok []
    | none => .ok []

end WorkflowLint.Rules
