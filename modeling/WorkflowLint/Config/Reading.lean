import WorkflowLint.Config.Basic
import WorkflowLint.Config.Checked
import WorkflowLint.Value.Conversion

/-!
Contract: configurations read from values.

Owns: the reading of each block and section.  Keys that are not known are passed over.
-/

set_option autoImplicit false

namespace WorkflowLint

open Value (readBool readInt readText readTexts readOptional readField readRecord)

def PlainBlock.read : Value → Checked PlainBlock :=
  readRecord "RuleConfig" fun entries =>
    (readField entries "enabled" false readBool).map PlainBlock.mk

def RetryPolicy.read : Value → Checked RetryPolicy :=
  readRecord "RetryPolicy" fun entries =>
    ((readField entries "count" 3 readInt).map RetryPolicy.mk)
      |>.apply (readField entries "strategy" "exponential" readText)
      |>.apply (readField entries "base_ms" 500 readInt)

def RetryBlock.read : Value → Checked RetryBlock :=
  readRecord "RateLimitRetryConfig" fun entries =>
    ((readField entries "enabled" false readBool).map RetryBlock.mk)
      |>.apply (readField entries "max_concurrency" none (readOptional readInt))
      |>.apply (readField entries "default_retry" none (readOptional RetryPolicy.read))

def ErrorHandlingBlock.read : Value → Checked ErrorHandlingBlock :=
  readRecord "ErrorHandlingConfig" fun entries =>
    ((readField entries "enabled" false readBool).map ErrorHandlingBlock.mk)
      |>.apply (readField entries "forbid_continue_on_fail" false readBool)

def IdempotencyBlock.read : Value → Checked IdempotencyBlock :=
  readRecord "IdempotencyConfig" fun entries =>
    ((readField entries "enabled" false readBool).map IdempotencyBlock.mk)
      |>.apply (readField entries "key_field_candidates" [] readTexts)

def DenylistBlock.read : Value → Checked DenylistBlock :=
  readRecord "DenylistConfig" fun entries =>
    ((readField entries "enabled" false readBool).map DenylistBlock.mk)
      |>.apply (readField entries "denylist_regex" [] readTexts)

def LongRunningBlock.read : Value → Checked LongRunningBlock :=
  readRecord "LongRunningConfig" fun entries =>
    ((readField entries "enabled" false readBool).map LongRunningBlock.mk)
      |>.apply (readField entries "max_iterations" none (readOptional readInt))
      |>.apply (readField entries "timeout_ms" none (readOptional readInt))

def NamingBlock.read : Value → Checked NamingBlock :=
  readRecord "NamingConventionConfig" fun entries =>
    ((readField entries "enabled" false readBool).map NamingBlock.mk)
      |>.apply (readField entries "generic_names" [] readTexts)

def WebhookBlock.read : Value → Checked WebhookBlock :=
  readRecord "WebhookAcknowledgmentConfig" fun entries =>
    ((readField entries "enabled" false readBool).map WebhookBlock.mk)
      |>.apply (readField entries "heavy_node_types" none (readOptional readTexts))

def RetryAfterBlock.read : Value → Checked RetryAfterBlock :=
  readRecord "RetryAfterComplianceConfig" fun entries =>
    ((readField entries "enabled" false readBool).map RetryAfterBlock.mk)
      |>.apply (readField entries "suggest_exponential_backoff" false readBool)
      |>.apply (readField entries "suggest_jitter" false readBool)

def RuleBlocks.read : Value → Checked RuleBlocks :=
  readRecord "RulesConfig" fun entries =>
    ((readField entries "rate_limit_retry" none (readOptional RetryBlock.read)).map RuleBlocks.mk)
      |>.apply (readField entries "error_handling" none (readOptional ErrorHandlingBlock.read))
      |>.apply (readField entries "idempotency" none (readOptional IdempotencyBlock.read))
      |>.apply (readField entries "secrets" none (readOptional DenylistBlock.read))
      |>.apply (readField entries "dead_ends" none (readOptional PlainBlock.read))
      |>.apply (readField entries "long_running" none (readOptional LongRunningBlock.read))
      |>.apply (readField entries "unused_data" none (readOptional PlainBlock.read))
      |>.apply (readField entries "unhandled_error_path" none (readOptional PlainBlock.read))
      |>.apply (readField entries "alert_log_enforcement" none (readOptional PlainBlock.read))
      |>.apply (readField entries "deprecated_nodes" none (readOptional PlainBlock.read))
      |>.apply (readField entries "naming_convention" none (readOptional NamingBlock.read))
      |>.apply (readField entries "config_literals" none (readOptional DenylistBlock.read))
      |>.apply (readField entries "webhook_acknowledgment" none (readOptional WebhookBlock.read))
      |>.apply (readField entries "retry_after_compliance" none (readOptional RetryAfterBlock.read))

def FilesSection.read : Value → Checked FilesSection :=
  readRecord "FilesConfig" fun entries =>
    ((readField entries "include" [] readTexts).map FilesSection.mk)
      |>.apply (readField entries "ignore" [] readTexts)

def ReportSection.read : Value → Checked ReportSection :=
  readRecord "ReportConfig" fun entries =>
    ((readField entries "annotations" true readBool).map ReportSection.mk)
      |>.apply (readField entries "summary_limit" 25 readInt)

def Config.ofEntries (entries : List (Value × Value)) : Checked Config :=
  ((readField entries "files" {} FilesSection.read).map Config.mk)
    |>.apply (readField entries "report" {} ReportSection.read)
    |>.apply (readField entries "rules" {} RuleBlocks.read)

def Config.read : Value → Checked Config := readRecord "Config" ofEntries

end WorkflowLint
