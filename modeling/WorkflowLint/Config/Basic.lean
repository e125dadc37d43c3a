import WorkflowLint.Value.Basic

/-!
Contract: the configuration of a run.

Owns: the blocks of the rules and the other sections.  A rule whose block is absent or not enabled is
off.
-/

set_option autoImplicit false

namespace WorkflowLint

/-- The settings of a rule that has none of its own. -/
structure PlainBlock where
  enabled : Bool := false
  deriving DecidableEq

structure RetryPolicy where
  count : Int := 3
  strategy : String := "exponential"
  baseMs : Int := 500
  deriving DecidableEq

structure RetryBlock where
  enabled : Bool := false
  maxConcurrency : Option Int := none
  defaultRetry : Option RetryPolicy := none
  deriving DecidableEq

structure ErrorHandlingBlock where
  enabled : Bool := false
  forbidContinueOnFail : Bool := false
  deriving DecidableEq

structure IdempotencyBlock where
  enabled : Bool := false
  keyFieldCandidates : List String := []
  deriving DecidableEq

structure DenylistBlock where
  enabled : Bool := false
  entries : List String := []
  deriving DecidableEq

structure LongRunningBlock where
  enabled : Bool := false
  maxIterations : Option Int := none
  timeoutMs : Option Int := none
  deriving DecidableEq

structure NamingBlock where
  enabled : Bool := false
  genericNames : List String := []
  deriving DecidableEq

structure WebhookBlock where
  enabled : Bool := false
  heavyNodeTypes : Option (List String) := none
  deriving DecidableEq

structure RetryAfterBlock where
  enabled : Bool := false
  suggestExponentialBackoff : Bool := false
  suggestJitter : Bool := false
  deriving DecidableEq

structure RuleBlocks where
  rateLimitRetry : Option RetryBlock := none
  errorHandling : Option ErrorHandlingBlock := none
  idempotency : Option IdempotencyBlock := none
  secrets : Option DenylistBlock := none
  deadEnds : Option PlainBlock := none
  longRunning : Option LongRunningBlock := none
  unusedData : Option PlainBlock := none
  unhandledErrorPath : Option PlainBlock := none
  alertLogEnforcement : Option PlainBlock := none
  deprecatedNodes : Option PlainBlock := none
  namingConvention : Option NamingBlock := none
  configLiterals : Option DenylistBlock := none
  webhookAcknowledgment : Option WebhookBlock := none
  retryAfterCompliance : Option RetryAfterBlock := none
  deriving DecidableEq

structure FilesSection where
  includes : List String := []
  ignores : List String := []
  deriving DecidableEq

structure ReportSection where
  annotations : Bool := true
  summaryLimit : Int := 25
  deriving DecidableEq

structure Config where
  files : FilesSection := {}
  report : ReportSection := {}
  rules : RuleBlocks := {}
  deriving DecidableEq

/-! ## Blocks by key -/

inductive Block where
  | plain (block : PlainBlock)
  | retry (block : RetryBlock)
  | errorHandling (block : ErrorHandlingBlock)
  | idempotency (block : IdempotencyBlock)
  | denylist (block : DenylistBlock)
  | longRunning (block : LongRunningBlock)
  | naming (block : NamingBlock)
  | webhook (block : WebhookBlock)
  | retryAfter (block : RetryAfterBlock)
  deriving DecidableEq

def Block.enabled : Block → Bool
  | .plain block => block.enabled
  | .retry block => block.enabled
  | .errorHandling block => block.enabled
  | .idempotency block => block.enabled
  | .denylist block => block.enabled
  | .longRunning block => block.enabled
  | .naming block => block.enabled
  | .webhook block => block.enabled
  | .retryAfter block => block.enabled

/-- The blocks with their keys, in the order in which a configuration lists them. -/
def RuleBlocks.keyed (rules : RuleBlocks) : List (String × Option Block) :=
  [("rate_limit_retry", rules.rateLimitRetry.map .retry),
    ("error_handling", rules.errorHandling.map .errorHandling),
    ("idempotency", rules.idempotency.map .idempotency),
    ("secrets", rules.secrets.map .denylist),
    ("dead_ends", rules.deadEnds.map .plain),
    ("long_running", rules.longRunning.map .longRunning),
    ("unused_data", rules.unusedData.map .plain),
    ("unhandled_error_path", rules.unhandledErrorPath.map .plain),
    ("alert_log_enforcement", rules.alertLogEnforcement.map .plain),
    ("deprecated_nodes", rules.deprecatedNodes.map .plain),
    ("naming_convention", rules.namingConvention.map .naming),
    ("config_literals", rules.configLiterals.map .denylist),
    ("webhook_acknowledgment", rules.webhookAcknowledgment.map .webhook),
    ("retry_after_compliance", rules.retryAfterCompliance.map .retryAfter)]

def Config.block? (config : Config) (key : String) : Option Block :=
  ((config.rules.keyed.lookup key).getD none)

/-! ## Configurations as records -/

def optionalInt (number : Option Int) : Value := (number.map Value.int).getD .null

def RetryPolicy.toValue (policy : RetryPolicy) : Value :=
  .record [("count", .int policy.count), ("strategy", .str policy.strategy),
    ("base_ms", .int policy.baseMs)]

def Block.toValue : Block → Value
  | .plain block => .record [("enabled", .bool block.enabled)]
  | .retry block =>
      .record [("enabled", .bool block.enabled),
        ("max_concurrency", optionalInt block.maxConcurrency),
        ("default_retry", (block.defaultRetry.map RetryPolicy.toValue).getD .null)]
  | .errorHandling block =>
      .record [("enabled", .bool block.enabled),
        ("forbid_continue_on_fail", .bool block.forbidContinueOnFail)]
  | .idempotency block =>
      .record [("enabled", .bool block.enabled),
        ("key_field_candidates", .texts block.keyFieldCandidates)]
  | .denylist block =>
      .record [("enabled", .bool block.enabled), ("denylist_regex", .texts block.entries)]
  | .longRunning block =>
      .record [("enabled", .bool block.enabled),
        ("max_iterations", optionalInt block.maxIterations),
        ("timeout_ms", optionalInt block.timeoutMs)]
  | .naming block =>
      .record [("enabled", .bool block.enabled), ("generic_names", .texts block.genericNames)]
  | .webhook block =>
      .record [("enabled", .bool block.enabled),
        ("heavy_node_types", (block.heavyNodeTypes.map Value.texts).getD .null)]
  | .retryAfter block =>
      .record [("enabled", .bool block.enabled),
        ("suggest_exponential_backoff", .bool block.suggestExponentialBackoff),
        ("suggest_jitter", .bool block.suggestJitter)]

def FilesSection.toValue (files : FilesSection) : Value :=
  .record [("include", .texts files.includes), ("ignore", .texts files.ignores)]

def ReportSection.toValue (report : ReportSection) : Value :=
  .record [("annotations", .bool report.annotations), ("summary_limit", .int report.summaryLimit)]

/-- The blocks of all rules as a record; absent blocks are null. -/
def RuleBlocks.toValue (rules : RuleBlocks) : Value :=
  .record (rules.keyed.map fun entry => (entry.1, (entry.2.map Block.toValue).getD .null))

def Config.toValue (config : Config) : Value :=
  .record [("files", config.files.toValue), ("report", config.report.toValue),
    ("rules", config.rules.toValue)]

end WorkflowLint
