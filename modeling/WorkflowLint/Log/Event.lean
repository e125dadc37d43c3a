import WorkflowLint.Config.File
import WorkflowLint.Json.Writer
import WorkflowLint.Lint.Basic
import WorkflowLint.Report.Render

/-!
Contract: events of a run.

Owns: the events, the level from which they are shown, and how one is written.
-/

set_option autoImplicit false

namespace WorkflowLint.Log

inductive Level where
  | debug
  | info
  deriving DecidableEq

def Level.rank : Level → Nat
  | .debug => 10
  | .info => 20

def Level.label : Level → String
  | .debug => "debug"
  | .info => "info"

structure Event where
  level : Level
  name : String
  source : String
  fields : List (String × Value)

/-! ## Thresholds -/

inductive LevelFault where
  /-- The word names a text. -/
  | namesText (text : String)
  | namesOther
  deriving DecidableEq

/-- The wording of a fault; there is none for what is no text. -/
def LevelFault.message : LevelFault → String
  | .namesText text => "Unknown level: " ++ Text.quoted text
  | .namesOther => ""

/-- A letter as an ASCII capital, also the two other letters whose capital is one. -/
def capital (c : Char) : Char :=
  if c == 'ı' then 'I' else if c == 'ſ' then 'S' else c.toUpper

/-- The threshold that a word names, that of warnings for unknown words. -/
def threshold (word : String) : Except LevelFault Nat :=
  match String.ofList (word.toList.map capital) with
  | "NOTSET" => .ok 0
  | "DEBUG" => .ok 10
  | "INFO" => .ok 20
  | "ERROR" => .ok 40
  | "CRITICAL" => .ok 50
  | "FATAL" => .ok 50
  | "BASIC_FORMAT" => .error (.namesText "%(levelname)s:%(name)s:%(message)s")
  | "_STYLES" => .error .namesOther
  | _ => .ok 30

def Event.isShown (least : Nat) (event : Event) : Bool := least ≤ event.level.rank

/-! ## Writing -/

/-- A field as console lines show it; texts with blanks, quotes or equals signs are quoted. -/
def fieldText : Value → String
  | .str text =>
      if text.toList.any fun c => [' ', '\t', '=', '\r', '\n', '"', '\''].contains c then
        Text.quoted text
      else text
  | value => value.quotedText

def Event.line (timestamp : String) (event : Event) : String :=
  timestamp ++ " [" ++ Report.padRight 9 event.level.label ++ "] " ++
    Report.padRight 30 event.name ++ " [" ++ event.source ++ "] " ++
    " ".intercalate (event.fields.map fun (name, value) => name ++ "=" ++ fieldText value)

def Event.toValue (event : Event) : Value :=
  .record (event.fields ++
    [("event", .str event.name), ("level", .str event.level.label), ("logger", .str event.source)])

/-! ## What is told -/

def ofSource : Config.Source → List Event
  | .usual => []
  | .missing path =>
      [⟨.info, "config_not_found", "flowlint.config", [("config_path", .str path.text)]⟩]
  | .file path =>
      [⟨.debug, "config_loaded", "flowlint.config", [("config_path", .str path.text)]⟩]

def countField (name : String) (count : Nat) : String × Value := (name, .int count)

def ofRule (result : Result) (rule : Rule) : Event :=
  let findings := result.findings.countP fun finding => finding.rule == rule.id
  ⟨.debug, "rule_evaluated", "flowlint.rules.engine",
    [countField "findings" findings, ("path", .str result.path), ("rule", .str rule.id)]⟩

def ofResult (result : Result) : List Event :=
  match result.graph with
  | none =>
      [⟨.info, "workflow_invalid", "flowlint.service",
        [countField "issues" result.issues.length, ("path", .str result.path)]⟩]
  | some graph =>
      ⟨.debug, "workflow_parsed", "flowlint.parser.n8n",
        [countField "edges" graph.edges.length, countField "nodes" graph.nodes.length,
          ("path", .str result.path)]⟩ ::
        Rules.builtin.map (ofRule result) ++
        [⟨.info, "workflow_linted", "flowlint.service",
          [countField "findings" result.findings.length, countField "nodes" graph.nodes.length,
            ("path", .str result.path)]⟩]

end WorkflowLint.Log
