import WorkflowLint.Config.Text
import WorkflowLint.Proofs.PatchedRecords
import WorkflowLint.Proofs.YamlMappings

/-!
Contract: the fields that a configuration text leaves out.

A configuration text is laid over the usual document, and the result is read section by section, block
by block and field by field.  So a field that the text does not mention, or mentions as null, has its
usual value, whatever the text says of the fields beside it.
-/

set_option autoImplicit false

namespace WorkflowLint

open Value (laid entriesOf lookupText readBool readInt readText readTexts readOptional readRecord)

/-! ## The records of a configuration -/

open RecordField

/-- The settings of a rule. -/
def RecordField.block {kind : Type} (name : String) (content : RuleBlocks → Option kind)
    (read : Value → Checked kind) (ofKind : kind → Block) : RecordField RuleBlocks :=
  ⟨Option kind, name, content, none, readOptional read,
    fun settings => ((settings.map ofKind).map Block.toValue).getD .null⟩

theorem RecordField.block_followsIn {kind : Type} {name : String}
    {content : RuleBlocks → Option kind} {read : Value → Checked kind} {ofKind : kind → Block}
    {usual : List (Value × Value)} {given : List (String × Value)} {inner : List (RecordField kind)}
    (usually : lookupText name usual = some (.record given))
    (goes : GoesByFields inner read fun settings => (ofKind settings).toValue)
    (each : inner.Forall (·.FollowsIn (entriesOf given))) :
    (block name content read ofKind).FollowsIn usual :=
  followsIn_optional (fun _ => rfl) usually goes each

/-- The fields of a retry policy. -/
def RetryPolicy.fields : List (RecordField RetryPolicy) :=
  [⟨Int, "count", RetryPolicy.count, 3, readInt, .int⟩,
    ⟨String, "strategy", RetryPolicy.strategy, "exponential", readText, .str⟩,
    ⟨Int, "base_ms", RetryPolicy.baseMs, 500, readInt, .int⟩]

theorem RetryPolicy.goesByFields : GoesByFields fields read toValue :=
  goesByFields_of_yields
    (fun _ => .apply (.apply (Checked.yields_map fun _ count _ strategy _ base =>
      ⟨count, strategy, base⟩)))
    fun _ => rfl

def PlainBlock.fields : List (RecordField PlainBlock) := [flag "enabled" PlainBlock.enabled]

theorem PlainBlock.goesByFields :
    GoesByFields fields read fun settings => (Block.plain settings).toValue :=
  goesByFields_of_yields (fun _ => Checked.yields_map fun _ enabled => enabled) fun _ => rfl

def RetryBlock.fields : List (RecordField RetryBlock) :=
  [flag "enabled" RetryBlock.enabled,
    optional "max_concurrency" RetryBlock.maxConcurrency readInt .int,
    optional "default_retry" RetryBlock.defaultRetry RetryPolicy.read RetryPolicy.toValue]

theorem RetryBlock.goesByFields :
    GoesByFields fields read fun settings => (Block.retry settings).toValue :=
  goesByFields_of_yields
    (fun _ => .apply (.apply (Checked.yields_map fun _ enabled _ most _ policy =>
      ⟨enabled, most, policy⟩)))
    fun _ => rfl

def ErrorHandlingBlock.fields : List (RecordField ErrorHandlingBlock) :=
  [flag "enabled" ErrorHandlingBlock.enabled,
    flag "forbid_continue_on_fail" ErrorHandlingBlock.forbidContinueOnFail]

theorem ErrorHandlingBlock.goesByFields :
    GoesByFields fields read fun settings => (Block.errorHandling settings).toValue :=
  goesByFields_of_yields
    (fun _ => .apply (Checked.yields_map fun _ enabled _ forbids => ⟨enabled, forbids⟩))
    fun _ => rfl

def IdempotencyBlock.fields : List (RecordField IdempotencyBlock) :=
  [flag "enabled" IdempotencyBlock.enabled,
    texts "key_field_candidates" IdempotencyBlock.keyFieldCandidates]

theorem IdempotencyBlock.goesByFields :
    GoesByFields fields read fun settings => (Block.idempotency settings).toValue :=
  goesByFields_of_yields
    (fun _ => .apply (Checked.yields_map fun _ enabled _ candidates => ⟨enabled, candidates⟩))
    fun _ => rfl

def DenylistBlock.fields : List (RecordField DenylistBlock) :=
  [flag "enabled" DenylistBlock.enabled, texts "denylist_regex" DenylistBlock.entries]

theorem DenylistBlock.goesByFields :
    GoesByFields fields read fun settings => (Block.denylist settings).toValue :=
  goesByFields_of_yields
    (fun _ => .apply (Checked.yields_map fun _ enabled _ entries => ⟨enabled, entries⟩))
    fun _ => rfl

def LongRunningBlock.fields : List (RecordField LongRunningBlock) :=
  [flag "enabled" LongRunningBlock.enabled,
    optional "max_iterations" LongRunningBlock.maxIterations readInt .int,
    optional "timeout_ms" LongRunningBlock.timeoutMs readInt .int]

theorem LongRunningBlock.goesByFields :
    GoesByFields fields read fun settings => (Block.longRunning settings).toValue :=
  goesByFields_of_yields
    (fun _ => .apply (.apply (Checked.yields_map fun _ enabled _ most _ timeout =>
      ⟨enabled, most, timeout⟩)))
    fun _ => rfl

def NamingBlock.fields : List (RecordField NamingBlock) :=
  [flag "enabled" NamingBlock.enabled, texts "generic_names" NamingBlock.genericNames]

theorem NamingBlock.goesByFields :
    GoesByFields fields read fun settings => (Block.naming settings).toValue :=
  goesByFields_of_yields
    (fun _ => .apply (Checked.yields_map fun _ enabled _ names => ⟨enabled, names⟩))
    fun _ => rfl

def WebhookBlock.fields : List (RecordField WebhookBlock) :=
  [flag "enabled" WebhookBlock.enabled,
    optional "heavy_node_types" WebhookBlock.heavyNodeTypes readTexts .texts]

theorem WebhookBlock.goesByFields :
    GoesByFields fields read fun settings => (Block.webhook settings).toValue :=
  goesByFields_of_yields
    (fun _ => .apply (Checked.yields_map fun _ enabled _ types => ⟨enabled, types⟩))
    fun _ => rfl

def RetryAfterBlock.fields : List (RecordField RetryAfterBlock) :=
  [flag "enabled" RetryAfterBlock.enabled,
    flag "suggest_exponential_backoff" RetryAfterBlock.suggestExponentialBackoff,
    flag "suggest_jitter" RetryAfterBlock.suggestJitter]

theorem RetryAfterBlock.goesByFields :
    GoesByFields fields read fun settings => (Block.retryAfter settings).toValue :=
  goesByFields_of_yields
    (fun _ => .apply (.apply (Checked.yields_map fun _ enabled _ backoff _ jitter =>
      ⟨enabled, backoff, jitter⟩)))
    fun _ => rfl

def RuleBlocks.fields : List (RecordField RuleBlocks) :=
  [block "rate_limit_retry" rateLimitRetry RetryBlock.read .retry,
    block "error_handling" errorHandling ErrorHandlingBlock.read .errorHandling,
    block "idempotency" idempotency IdempotencyBlock.read .idempotency,
    block "secrets" secrets DenylistBlock.read .denylist,
    block "dead_ends" deadEnds PlainBlock.read .plain,
    block "long_running" longRunning LongRunningBlock.read .longRunning,
    block "unused_data" unusedData PlainBlock.read .plain,
    block "unhandled_error_path" unhandledErrorPath PlainBlock.read .plain,
    block "alert_log_enforcement" alertLogEnforcement PlainBlock.read .plain,
    block "deprecated_nodes" deprecatedNodes PlainBlock.read .plain,
    block "naming_convention" namingConvention NamingBlock.read .naming,
    block "config_literals" configLiterals DenylistBlock.read .denylist,
    block "webhook_acknowledgment" webhookAcknowledgment WebhookBlock.read .webhook,
    block "retry_after_compliance" retryAfterCompliance RetryAfterBlock.read .retryAfter]

theorem RuleBlocks.goesByFields : GoesByFields fields read toValue := by
  refine goesByFields_of_yields (fun entries => ?_) fun _ => rfl
  iterate 13 apply Checked.Yields.apply
  apply Checked.yields_map
  intro _ retry _ errors _ repetition _ secrets _ ends _ loops _ unused _ paths _ alerts _ old _ names
    _ literals _ webhooks _ waits
  exact ⟨retry, errors, repetition, secrets, ends, loops, unused, paths, alerts, old, names, literals,
    webhooks, waits⟩

def FilesSection.fields : List (RecordField FilesSection) :=
  [texts "include" FilesSection.includes, texts "ignore" FilesSection.ignores]

theorem FilesSection.goesByFields : GoesByFields fields read toValue :=
  goesByFields_of_yields
    (fun _ => .apply (Checked.yields_map fun _ included _ ignored => ⟨included, ignored⟩))
    fun _ => rfl

def ReportSection.fields : List (RecordField ReportSection) :=
  [⟨Bool, "annotations", ReportSection.annotations, true, readBool, .bool⟩,
    ⟨Int, "summary_limit", ReportSection.summaryLimit, 25, readInt, .int⟩]

theorem ReportSection.goesByFields : GoesByFields fields read toValue :=
  goesByFields_of_yields
    (fun _ => .apply (Checked.yields_map fun _ annotations _ limit => ⟨annotations, limit⟩))
    fun _ => rfl

namespace Config

def fields : List (RecordField Config) :=
  [⟨FilesSection, "files", Config.files, {}, FilesSection.read, FilesSection.toValue⟩,
    ⟨ReportSection, "report", Config.report, {}, ReportSection.read, ReportSection.toValue⟩,
    ⟨RuleBlocks, "rules", Config.rules, {}, RuleBlocks.read, RuleBlocks.toValue⟩]

theorem goesByFields : GoesByFields fields read toValue :=
  goesByFields_of_yields
    (fun _ => .apply (.apply (Checked.yields_map fun _ files _ report _ rules =>
      ⟨files, report, rules⟩)))
    fun _ => rfl

/-- Every field of every rule stands in the usual document. -/
theorem rules_followIn : RuleBlocks.fields.Forall (·.FollowsIn (entriesOf usualRules)) := by
  have policy : RetryPolicy.fields.Forall (·.FollowsIn (entriesOf
      [("count", .int 3), ("strategy", .str "exponential"), ("base_ms", .int 500)])) :=
    ⟨followsIn_of_setting isSetting_int rfl, followsIn_of_setting isSetting_text rfl,
      followsIn_of_setting isSetting_int rfl⟩
  have plain : PlainBlock.fields.Forall (·.FollowsIn (entriesOf [("enabled", .bool true)])) :=
    flag_followsIn rfl
  exact ⟨block_followsIn rfl RetryBlock.goesByFields
      ⟨flag_followsIn rfl, optionalInt_followsIn rfl,
        followsIn_optional (fun _ => rfl) rfl RetryPolicy.goesByFields policy⟩,
    block_followsIn rfl ErrorHandlingBlock.goesByFields
      ⟨flag_followsIn rfl, flag_followsIn rfl⟩,
    block_followsIn rfl IdempotencyBlock.goesByFields
      ⟨flag_followsIn rfl, texts_followsIn rfl⟩,
    block_followsIn rfl DenylistBlock.goesByFields
      ⟨flag_followsIn rfl, texts_followsIn rfl⟩,
    block_followsIn rfl PlainBlock.goesByFields plain,
    block_followsIn rfl LongRunningBlock.goesByFields
      ⟨flag_followsIn rfl, optionalInt_followsIn rfl,
        optionalInt_followsIn rfl⟩,
    block_followsIn rfl PlainBlock.goesByFields plain,
    block_followsIn rfl PlainBlock.goesByFields plain,
    block_followsIn rfl PlainBlock.goesByFields plain,
    block_followsIn rfl PlainBlock.goesByFields plain,
    block_followsIn rfl NamingBlock.goesByFields
      ⟨flag_followsIn rfl, texts_followsIn rfl⟩,
    block_followsIn rfl DenylistBlock.goesByFields
      ⟨flag_followsIn rfl, texts_followsIn rfl⟩,
    block_followsIn rfl WebhookBlock.goesByFields
      ⟨flag_followsIn rfl, followsIn_of_setting isSetting_texts.optional rfl⟩,
    block_followsIn rfl RetryAfterBlock.goesByFields
      ⟨flag_followsIn rfl, flag_followsIn rfl, flag_followsIn rfl⟩⟩

theorem followsPatch : FollowsPatch read toValue (.map usualDocument) := by
  have files : FilesSection.fields.Forall (·.FollowsIn (entriesOf
      [("include", .texts usualInclude), ("ignore", .texts usualIgnore)])) :=
    ⟨texts_followsIn rfl, texts_followsIn rfl⟩
  have report : ReportSection.fields.Forall (·.FollowsIn (entriesOf
      [("annotations", .bool true), ("summary_limit", .int 25)])) :=
    ⟨followsIn_of_setting isSetting_bool rfl, followsIn_of_setting isSetting_int rfl⟩
  have sections : fields.Forall (·.FollowsIn (entriesOf
      [("files", .record [("include", .texts usualInclude), ("ignore", .texts usualIgnore)]),
        ("report", .record [("annotations", .bool true), ("summary_limit", .int 25)]),
        ("rules", .record usualRules)])) :=
    ⟨followsIn_record rfl FilesSection.goesByFields files,
      followsIn_record rfl ReportSection.goesByFields report,
      followsIn_record rfl RuleBlocks.goesByFields rules_followIn⟩
  exact followsPatch_record goesByFields sections

private theorem usual_fits : read (.map usualDocument) = .fits usual := rfl

/-! ## Texts -/

theorem isKeyed_of_textValue {text : List Char} {value : Value} (isValue : textValue text = .ok value) :
    value.IsKeyed := by
  rw [textValue] at isValue
  split at isValue
  · cases isValue
    exact .other rfl
  · split at isValue
    · next decoded =>
        cases isValue
        exact Yaml.isKeyed_of_decode decoded
    · cases isValue
    · cases isValue
    · cases isValue

theorem ofChecked_eq_ok {checked : Checked Config} {config : Config}
    (returns : ofChecked checked = .ok config) : checked = .fits config := by
  cases checked with
  | fits own =>
      cases returns
      rfl
  | fails details => cases returns

/-- A text with a configuration has a mapping or nothing as its value, and the configuration is read
from it laid over the usual document. -/
theorem exists_patch_of_ofText {text : List Char} {config : Config}
    (returns : ofText text = .ok config) :
    ∃ value, textValue text = .ok value ∧ (value = .null ∨ ∃ entries, value = .map entries) ∧
      ∃ given, laid (some (.map usualDocument)) value = some given ∧ read given = .fits config := by
  obtain ⟨value, isValue, returns⟩ := Sequence.bind_eq_ok_iff.mp returns
  refine ⟨value, isValue, ?_⟩
  cases value with
  | null => exact ⟨.inl rfl, _, rfl, ofChecked_eq_ok returns⟩
  | map entries => exact ⟨.inr ⟨entries, rfl⟩, _, rfl, ofChecked_eq_ok returns⟩
  | _ => cases returns

/-- A value with one field at the end of a way, and no other. -/
def nested : List String → Value → Value
  | [], content => content
  | name :: rest, content => .record [(name, nested rest content)]

/-- Ways that part from the only one lead nowhere. -/
theorem fieldAt_nested_of_apart {place way : List String} {content : Value}
    (above : ¬ way <+: place) (below : ¬ place <+: way) : fieldAt way (nested place content) = none := by
  induction place generalizing way with
  | nil => exact absurd way.nil_prefix below
  | cons name rest inductionHypothesis =>
      cases way with
      | nil => exact absurd (List.nil_prefix) above
      | cons other others =>
          rw [nested, fieldAt_cons_record]
          by_cases isIt : other = name
          · subst isIt
            rw [if_pos rfl]
            rw [List.prefix_cons_inj] at above below
            exact inductionHypothesis above below
          · rw [if_neg isIt]
            rfl

/-- A configuration text changes what it mentions and nothing else.  Every field, section or block at
whose place the text has nothing, or null, is the usual one; a setting that the text gives a value of
its own kind has that value; and a text with a single field changes nothing beside it: no other
section, no other rule, and no other field of the same rule. -/
theorem text_changes_only_mentioned {text : List Char} {config : Config}
    (returns : ofText text = .ok config) :
    ∃ value, textValue text = .ok value ∧ (value = .null ∨ ∃ entries, value = .map entries) ∧
      (∀ way, (∀ content, fieldAt way value = some content → content = .null) →
        fieldAt way config.toValue = fieldAt way usual.toValue) ∧
      (∀ way before content, fieldAt way usual.toValue = some before →
        fieldAt way value = some content → SameKind before content →
        fieldAt way config.toValue = some content) ∧
      ∀ place content, value = nested place content →
        ∀ way, ¬ way <+: place → ¬ place <+: way →
          fieldAt way config.toValue = fieldAt way usual.toValue := by
  obtain ⟨value, isValue, isRoot, given, lays, reads⟩ := exists_patch_of_ofText returns
  have follows := followsPatch (isKeyed_of_textValue isValue) lays usual_fits reads
  refine ⟨value, isValue, isRoot, fun way silent => (follows way).kept silent,
    fun way before content usually mentioned sameKind =>
      (follows way).taken usually mentioned sameKind, ?_⟩
  rintro place content rfl way above below
  -- A way beside the only field leads to nothing in the text.
  refine (follows way).kept fun other mentioned => ?_
  rw [fieldAt_nested_of_apart above below] at mentioned
  cases mentioned

/-- A text with one setting of one rule, and nulls beside it. -/
def countedText : List Char :=
  ("report:\nrules:\n  rate_limit_retry:\n    default_retry:\n      count: 7\n" ++
    "      strategy: ~\n  secrets:\n").toList

def countedConfig : Config :=
  { usual with
    rules :=
      { usual.rules with
        rateLimitRetry := some ⟨true, some 5, some ⟨7, "exponential", 500⟩⟩ } }

/-- Places that the text leaves out or has null at. -/
def uncountedPlaces : List (List String) :=
  [["files"], ["report"], ["rules", "secrets"], ["rules", "dead_ends", "enabled"],
    ["rules", "rate_limit_retry", "max_concurrency"],
    ["rules", "rate_limit_retry", "default_retry", "strategy"],
    ["rules", "rate_limit_retry", "default_retry", "base_ms"]]

theorem text_changes_only_mentioned_count :
    ofText countedText = .ok countedConfig ∧ countedConfig ≠ usual ∧
      ∀ way ∈ uncountedPlaces,
        fieldAt way countedConfig.toValue = fieldAt way usual.toValue := by
  have returns : ofText countedText = .ok countedConfig :=
    Sequence.toOption_eq_some_iff.mp (by decide +kernel)
  have evaluated : ((textValue countedText).toOption.map fun value =>
      uncountedPlaces.all fun way => (fieldAt way value).all Value.isNull) = some true := by
    decide +kernel
  obtain ⟨value, isValue, _, kept, _⟩ := text_changes_only_mentioned returns
  rw [isValue] at evaluated
  refine ⟨returns, by decide +kernel, fun way member => kept way fun content found => ?_⟩
  have isNull := List.all_eq_true.mp (Option.some.inj evaluated) way member
  rw [found] at isNull
  exact isNull_iff.mp isNull

end Config

end WorkflowLint
