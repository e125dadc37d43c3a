import WorkflowLint.Classification
import WorkflowLint.Json.Writer
import WorkflowLint.Rule.Basic
import WorkflowLint.Text.Lowercase
import WorkflowLint.Value.Mention

/-!
Contract: rules on calls that are tried again.

Owns: the effective retry setting of a node, the rule that calls must be tried again (R1), and the
rule that a wait announced by the other side must be kept (R14).
-/

set_option autoImplicit false

namespace WorkflowLint

namespace Node

/-- The places of the retry setting, the first that is given counts. -/
def retryPlaces (node : Node) : List Value :=
  let params := node.params.getD []
  [(Value.field "options" params).fieldOf "retryOnFail", Value.field "retryOnFail" params,
    (node.flags.map Flags.retryOnFail).getD .null]

def retrySetting (node : Node) : Value :=
  (node.retryPlaces.find? fun value => !value.isNull).getD .null

def hasFixedWait (node : Node) : Bool :=
  match (node.flags.map Flags.waitBetweenTries).getD .null with
  | .int _ => true
  | .float _ => true
  | .str text => !Value.hasExpressionMark text.toList && (Value.textNumber? text.toList).isSome
  | _ => false

end Node

namespace Value

/-- The text says true, without regard to case and blanks around it. -/
def saysTrue (text : String) : Bool :=
  Text.lowerChars (Text.trim text.toList) == "true".toList

/-- A retry setting that is on, or that is decided at run time. -/
def settlesRetry : Value → Bool
  | .bool flag => flag
  | .str text => hasExpressionMark text.toList || saysTrue text
  | _ => false

mutual

/-- The value with texts as keys; of keys with one text the last value counts.  Tuples are left as
they are. -/
def withTextKeys : Value → Value
  | .map entries => .map (ofPairs (entriesWithTextKeys entries))
  | .list items => .list (itemsWithTextKeys items)
  | value => value

def itemsWithTextKeys : List Value → List Value
  | [] => []
  | item :: rest => item.withTextKeys :: itemsWithTextKeys rest

def entriesWithTextKeys : List (Value × Value) → List (Value × Value)
  | [] => []
  | (key, value) :: rest => (.str key.displayText, value.withTextKeys) :: entriesWithTextKeys rest

end

mutual

/-- The keys that `withTextKeys` turns into texts can be written. -/
def hasSpellableKeys : Value → Bool
  | .map entries => haveSpellableKeys entries
  | .list items => areKeyedSpellably items
  | _ => true

def areKeyedSpellably : List Value → Bool
  | [] => true
  | item :: rest => item.hasSpellableKeys && areKeyedSpellably rest

def haveSpellableKeys : List (Value × Value) → Bool
  | [] => true
  | (key, value) :: rest =>
      key.isSpellable && value.hasSpellableKeys && haveSpellableKeys rest

end

end Value

namespace Rules

def missingRetry (node : Node) : Remark where
  nodeId := node.id
  message := "Node " ++ node.label ++ " is missing retry/backoff configuration"
  details := some "In the node properties, enable \"Retry on Fail\" under Options."

def lacksRetry (node : Node) : Bool :=
  isApi node.type && !node.retrySetting.settlesRetry

/-- R1: nodes that call a service try again. -/
def rateLimitRetry : Rule :=
  .perNode "R1" "rate_limit_retry" none fun _ _ node =>
    .ok (if lacksRetry node then [missingRetry node] else [])

def retryAfterWords : List String := ["retryafter", "retry-after", "retry_after"]

def namesRetryAfter (node : Node) : Except RuleFault Bool :=
  let written := node.toValue.withTextKeys
  if !node.toValue.hasSpellableKeys then .error (.spelling .integerTooLong)
  else
    match Json.obstacle? written with
    | none => .ok (Text.anyOccursIn retryAfterWords (Json.compact written))
    | some .badKey => .error .unwritable
    | some (.spelling fault) => .error (.spelling fault)

/-- A call that is tried again without a fixed wait. -/
def retriesFreely (node : Node) : Bool :=
  isApi node.type && !node.retrySetting.isEmpty && !node.retrySetting.isExpression &&
    !node.hasFixedWait

def ignoredWait (node : Node) : Remark where
  nodeId := node.id
  message :=
    "Node " ++ node.label ++ " has retry logic but ignores Retry-After headers (429/503 responses)"
  details := some <|
    "Add expression to parse Retry-After header: const retryAfter = $json.headers['retry-after']; " ++
    "const delay = retryAfter ? (parseInt(retryAfter) || new Date(retryAfter) - Date.now()) " ++
    ": Math.min(1000 * Math.pow(2, $execution.retryCount), 60000); " ++
    "This prevents API bans and respects server rate limits."

/-- R14: nodes that try again keep a wait announced by the other side. -/
def retryAfterCompliance : Rule :=
  .perNode "R14" "retry_after_compliance" none fun _ _ node =>
    if retriesFreely node then
      (namesRetryAfter node).map fun named => if named then [] else [ignoredWait node]
    else .ok []

end Rules

end WorkflowLint
