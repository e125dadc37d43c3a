import WorkflowLint.Cli.Help
import WorkflowLint.Config.File
import WorkflowLint.Files.Selection
import WorkflowLint.Log.Event

/-!
Contract: runs of the program.

Owns: what a run prints and its exit code, as a function of the arguments, the settings and the
current folder.  Mistakes in the configuration and files that cannot be read end a run with a message;
everything else that goes wrong is a fault.
-/

set_option autoImplicit false

namespace WorkflowLint.Cli

inductive Note where
  | line (text : String)
  | usage (text : String)
  | event (event : Log.Event)

structure Output where
  exitCode : Nat
  report : String := ""
  notes : List Note := []
  eventsAsJson : Bool := false

inductive Fault where
  | level (fault : Log.LevelFault)
  | config (fault : Config.FileFault)
  | glob (fault : GlobFault)
  | lint (fault : Lint.Fault)
  | hyphensAsValue

/-- Why a check ends early: with a message, or with a fault. -/
inductive Halt where
  | message (text : String)
  | fault (fault : Fault)

/-! ## The steps of a check -/

def configHalt (fault : Config.FileFault) : Halt :=
  match fault with
  | .folder _ | .content (.mismatched _) | .content (.notYaml _) | .content (.rootKind _) =>
      .message ("Error: " ++ fault.message)
  | _ => .fault (.config fault)

def loadConfig (workspace : Workspace) (given : Option String) :
    List Log.Event × Except Halt Config :=
  let source := Config.source workspace given
  match source with
  | .file path =>
      match Config.fileContent workspace path with
      | .ok text => (Log.ofSource source, (Config.ofFileText text).mapError configHalt)
      | .error fault => ([], .error (configHalt fault))
  | _ => (Log.ofSource source, .ok Config.usual)

def filesBelow (workspace : Workspace) (files : FilesSection) (root : FilePath) :
    Except Halt (List FilePath) :=
  (Files.collect workspace root files).mapError fun fault => .fault (.glob fault)

def filesOf (workspace : Workspace) (files : FilesSection) (argument : String) :
    Except Halt (List FilePath) :=
  let path := FilePath.ofText argument
  if workspace.hasFolder path then filesBelow workspace files path
  else if workspace.hasFile path then .ok [path]
  else .error (.message ("Error: cannot read " ++ argument))

/-- The files that the arguments stand for, each once; without arguments those of the current
folder. -/
def resolve (workspace : Workspace) (files : FilesSection) (arguments : List String) :
    Except Halt (List FilePath) :=
  if arguments.isEmpty then filesBelow workspace files workspace.here
  else do
    let found ← arguments.mapM (filesOf workspace files)
    return found.flatten.eraseDups

def readTexts (workspace : Workspace) (paths : List FilePath) :
    Except Halt (List (String × String)) :=
  (Files.read workspace paths).mapError fun fault =>
    .message ("Error: cannot read " ++ fault.message)

def reportText (format : Format) (results : List Result) (summary : Summary) : String :=
  match format with
  | .text => Report.text results summary
  | .json => Report.json results summary

def checkTexts (settings : Settings) (options : CheckOptions) (config : Config)
    (texts : List (String × String)) : Except Halt Output :=
  if texts.isEmpty then .ok { exitCode := 0, notes := [.line "No workflow files found."] }
  else do
    let setup : Lint.Setup := ⟨config, settings.documentationBase, []⟩
    let results ← (Lint.documents setup texts).mapError fun fault => Halt.fault (.lint fault)
    let summary := Summary.ofResults results
    return { exitCode := summary.exitCode options.failOn
             report := reportText options.format results summary ++ "\n"
             notes := (results.flatMap Log.ofResult).map .event }

def checkUnder (settings : Settings) (workspace : Workspace) (options : CheckOptions)
    (config : Config) : Except Halt Output := do
  let paths ← resolve workspace config.files options.paths
  checkTexts settings options config (← readTexts workspace paths)

def check (settings : Settings) (workspace : Workspace) (options : CheckOptions) :
    Except Fault Output :=
  let (events, config) := loadConfig workspace options.config
  match config >>= checkUnder settings workspace options with
  | .ok output => .ok { output with notes := events.map .event ++ output.notes }
  | .error (.message text) => .ok { exitCode := 2, notes := events.map .event ++ [.line text] }
  | .error (.fault fault) => .error fault

/-! ## The list of rules -/

def ruleLine (info : RuleInfo) : String :=
  Report.padRight 4 info.id ++ " " ++ Report.padRight 6 info.severity.label ++ " " ++
    Report.padRight 24 info.name ++ " " ++ info.description ++ "\n"

def ruleList : Format → String
  | .text => String.join (RuleInfo.catalogue.map ruleLine)
  | .json => Json.encode (.list (RuleInfo.catalogue.map RuleInfo.toValue)) ++ "\n"

/-! ## Runs -/

def shownNotes (least : Nat) (notes : List Note) : List Note :=
  notes.filter fun note =>
    match note with
    | .event event => event.isShown least
    | _ => true

def execute (settings : Settings) (workspace : Workspace) : Command → Except Fault Output
  | .check options => check settings workspace options
  | .rules format => .ok { exitCode := 0, report := ruleList format }
  | .absent => .ok { exitCode := 2, report := Grammar.top.help settings }

/-- The word for the level of events: that of the arguments unless it is empty. -/
def levelWord (settings : Settings) (invocation : Invocation) : String :=
  let given := invocation.logLevel.getD ""
  if given.isEmpty then settings.logLevel else given

def invoke (settings : Settings) (workspace : Workspace) (invocation : Invocation) :
    Except Fault Output := do
  let least ← (Log.threshold (levelWord settings invocation)).mapError Fault.level
  let output ← execute settings workspace invocation.command
  return { output with
    notes := shownNotes least output.notes
    eventsAsJson := invocation.logJson || settings.logJson }

def run (settings : Settings) (workspace : Workspace) (arguments : List String) :
    Except Fault Output :=
  match parse arguments with
  | .ok invocation => invoke settings workspace invocation
  | .error (.help grammar) => .ok { exitCode := 0, report := grammar.help settings }
  | .error (.refused grammar message) =>
      .ok { exitCode := 2
            notes := [.usage grammar.usage, .line (grammar.program ++ ": error: " ++ message)] }
  | .error .hyphensAsValue => .error .hyphensAsValue

end WorkflowLint.Cli
