import WorkflowLint.Config.Reading
import WorkflowLint.Value.Display
import WorkflowLint.Value.Merge
import WorkflowLint.Yaml.Meaning

/-!
Contract: configurations from texts.

Owns: the usual configuration, and the reading of a configuration text, which is laid over the usual
one: mappings are merged, everything else replaces, and null leaves what was there.
-/

set_option autoImplicit false

namespace WorkflowLint

namespace Config

/-- Node types that do heavy work unless a configuration lists others. -/
def heavyNodeTypes : List String :=
  ["n8n-nodes-base.httpRequest", "n8n-nodes-base.postgres", "n8n-nodes-base.mysql",
    "n8n-nodes-base.mongodb", "n8n-nodes-base.openAi", "n8n-nodes-base.anthropic"]

def usualBlock (key : String) (settings : List (String × Value)) : String × Value :=
  (key, .record (("enabled", .bool true) :: settings))

def usualRules : List (String × Value) :=
  [usualBlock "rate_limit_retry"
      [("max_concurrency", .int 5),
        ("default_retry", .record
          [("count", .int 3), ("strategy", .str "exponential"), ("base_ms", .int 500)])],
    usualBlock "error_handling" [("forbid_continue_on_fail", .bool true)],
    usualBlock "idempotency" [("key_field_candidates", .texts ["eventId", "messageId"])],
    usualBlock "secrets" [("denylist_regex", .texts ["(?i)api[_-]?key", "Bearer "])],
    usualBlock "dead_ends" [],
    usualBlock "long_running" [("max_iterations", .int 1000), ("timeout_ms", .int 300000)],
    usualBlock "unused_data" [],
    usualBlock "unhandled_error_path" [],
    usualBlock "alert_log_enforcement" [],
    usualBlock "deprecated_nodes" [],
    usualBlock "naming_convention"
      [("generic_names",
        .texts ["http request", "set", "if", "merge", "switch", "no-op", "start"])],
    usualBlock "config_literals"
      [("denylist_regex", .texts
        ["(?i)\\b(dev|development)\\b", "(?i)\\b(stag|staging)\\b", "(?i)\\b(prod|production)\\b",
          "(?i)\\b(test|testing)\\b"])],
    usualBlock "webhook_acknowledgment"
      [("heavy_node_types", .texts (heavyNodeTypes ++ ["n8n-nodes-base.huggingFace"]))],
    usualBlock "retry_after_compliance"
      [("suggest_exponential_backoff", .bool true), ("suggest_jitter", .bool true)]]

def usualInclude : List String :=
  ["**/*.n8n.json", "**/workflows/*.json", "**/workflows/**/*.json", "**/*.n8n.yaml", "**/*.json"]

def usualIgnore : List String :=
  ["samples/**", "**/*.spec.json", "node_modules/**", "package*.json", "tsconfig*.json",
    ".flowlint.yml", ".github/**", ".husky/**", ".vscode/**", "infra/**", "*.config.js",
    "*.config.ts", "**/*.lock"]

def usualDocument : List (Value × Value) :=
  [(.str "files", .record [("include", .texts usualInclude), ("ignore", .texts usualIgnore)]),
    (.str "report", .record [("annotations", .bool true), ("summary_limit", .int 25)]),
    (.str "rules", .record usualRules)]

def usual : Config :=
  match read (.map usualDocument) with
  | .fits config => config
  | .fails _ => {}

inductive Fault where
  | mismatched (details : List Detail)
  /-- The text is not YAML, in the words of its reader. -/
  | notYaml (wording : String)
  /-- The root of the text is no mapping but a value of this kind. -/
  | rootKind (kind : String)
  | badScalar (fault : Yaml.Fault)
  /-- The value cannot be taken as a mapping. -/
  | conversion (fault : Value.ConversionFault)
  | declined (content : Declined)

/-- The wording of a fault that is reported as one of the configuration. -/
def Fault.message : Fault → String
  | .mismatched _ => "Invalid FlowLint configuration"
  | .notYaml wording => "Config is not valid YAML: " ++ wording
  | .rootKind kind => "Config root must be a mapping, got " ++ kind
  | .badScalar fault => fault.message
  | .conversion fault => fault.message
  | .declined _ => ""

def kindWord : Value → String
  | .null => "NoneType"
  | .bool _ => "bool"
  | .int _ => "int"
  | .float _ => "float"
  | .str _ => "str"
  | .list _ => "list"
  | .tuple _ => "tuple"
  | .map _ => "dict"
  | .set _ => "set"
  | .bytes _ => "bytes"
  | .moment point => if point.time.isSome then "datetime" else "date"

def ofChecked : Checked Config → Except Fault Config
  | .fits config => .ok config
  | .fails details => .error (.mismatched details)

/-- The configuration of a value alone; rules that it does not mention are off. -/
def ofValue (value : Value) : Except Fault Config :=
  match value.toEntries with
  | .ok entries => ofChecked (read (.map entries))
  | .error fault => .error (.conversion fault)

/-- The value of a configuration text; an empty text has none. -/
def textValue (text : List Char) : Except Fault Value :=
  if text.isEmpty then .ok .null
  else
    match Yaml.decode .configuration text with
    | .ok value => .ok value
    | .error .unreadable => .error (.notYaml Yaml.Fault.unreadable.message)
    | .error (.declined content) => .error (.declined content)
    | .error fault => .error (.badScalar fault)

/-- The configuration of a text, laid over the usual one. -/
def ofText (text : List Char) : Except Fault Config := do
  match ← textValue text with
  | .null => ofChecked (read (.map usualDocument))
  | .map entries => ofChecked (read (.map (Value.merge usualDocument entries)))
  | other => throw (.rootKind (kindWord other))

/-- A value has the three sections of a configuration as mappings. -/
def hasSections (value : Value) : Bool :=
  ["files", "report", "rules"].all fun name => (value.fieldOf name).isMap

end Config

end WorkflowLint
