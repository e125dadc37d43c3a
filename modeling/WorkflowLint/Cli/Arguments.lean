import WorkflowLint.Decimal.Reading
import WorkflowLint.Lint.Result
import WorkflowLint.Text.Digit
import WorkflowLint.Text.Quoted

/-!
Contract: arguments of the command line.

Owns: the switches, the commands, and how a list of arguments is taken apart.  Long switches may be
cut short while they stay clear, a value may be joined to its switch, and after two hyphens alone
everything is an operand.  Arguments that nothing takes are gathered and refused at the end.
-/

set_option autoImplicit false

namespace WorkflowLint.Cli

inductive Switch where
  | help
  | logLevel
  | logJson
  | config
  | format
  | failOn
  | workers
  deriving DecidableEq

namespace Switch

def names : Switch → List String
  | .help => ["-h", "--help"]
  | .logLevel => ["--log-level"]
  | .logJson => ["--log-json"]
  | .config => ["-c", "--config"]
  | .format => ["-f", "--format"]
  | .failOn => ["--fail-on"]
  | .workers => ["-j", "--workers"]

def takesValue : Switch → Bool
  | .help => false
  | .logJson => false
  | _ => true

def title (switch : Switch) : String := "/".intercalate switch.names

end Switch

/-- What a command takes beside its switches. -/
inductive Operands where
  | command
  /-- Any number of paths in one run. -/
  | paths
  | nothing
  deriving DecidableEq

structure Grammar where
  program : String
  switches : List Switch
  operands : Operands

namespace Grammar

def top : Grammar := ⟨"flowlint", [.help, .logLevel, .logJson], .command⟩

def check : Grammar := ⟨"flowlint check", [.help, .config, .format, .failOn, .workers], .paths⟩

def rules : Grammar := ⟨"flowlint rules", [.help, .format], .nothing⟩

def names (grammar : Grammar) : List (String × Switch) :=
  grammar.switches.flatMap fun switch => switch.names.map fun name => (name, switch)

end Grammar

inductive Format where
  | text
  | json
  deriving DecidableEq

inductive Setting where
  | logLevel (word : String)
  | logJson
  | config (path : String)
  | format (format : Format)
  | failOn (threshold : Threshold)
  | workers (count : Int)
  deriving DecidableEq

inductive Stop where
  | help (grammar : Grammar)
  | refused (grammar : Grammar) (message : String)
  /-- Two hyphens are joined to a switch as its value. -/
  | hyphensAsValue

/-! ## Values of switches -/

def refuse {α : Type} (grammar : Grammar) (switch : Switch) (message : String) : Except Stop α :=
  .error (.refused grammar ("argument " ++ switch.title ++ ": " ++ message))

def choiceMessage (value : String) (choices : List String) : String :=
  "invalid choice: " ++ Text.quoted value ++ " (choose from " ++
    ", ".intercalate (choices.map Text.quoted) ++ ")"

/-- The integer that a value spells, within the limit of digits. -/
def workerCount? (value : String) : Option Int :=
  if Decimal.digitLimit < (value.toList.countP fun c => Text.isDecimalDigit c) then none
  else Decimal.readInt? 10 value.toList

/-- The setting of a switch with its value, which is empty for switches without one. -/
def settingOf (grammar : Grammar) (switch : Switch) (value : String) : Except Stop Setting :=
  if switch.takesValue && value == "--" then .error .hyphensAsValue
  else
    match switch with
    | .help => .error (.help grammar)
    | .logLevel => .ok (.logLevel value)
    | .logJson => .ok .logJson
    | .config => .ok (.config value)
    | .format =>
        match value with
        | "text" => .ok (.format .text)
        | "json" => .ok (.format .json)
        | _ => refuse grammar switch (choiceMessage value ["text", "json"])
    | .failOn =>
        match Threshold.ofLabel? value with
        | some threshold => .ok (.failOn threshold)
        | none => refuse grammar switch (choiceMessage value ["must", "should", "nit", "never"])
    | .workers =>
        match workerCount? value with
        | some count => .ok (.workers count)
        | none => refuse grammar switch ("invalid int value: " ++ Text.quoted value)

/-! ## What an argument is -/

/-- An argument that looks like a switch: the switch if it is known, and the joined value. -/
structure Hit where
  switch? : Option Switch
  isShort : Bool := false
  joined : Option (List Char) := none

inductive Mark where
  | switch (hit : Hit)
  | operand
  | hyphens

def splitAtEquals (text : List Char) : List Char × Option (List Char) :=
  match text.dropWhile (· != '=') with
  | _ :: value => (text.takeWhile (· != '='), some value)
  | [] => (text, none)

def isNegativeNumber (text : List Char) : Bool :=
  let bare := if text.getLast? == some '\n' then text.dropLast else text
  match bare with
  | '-' :: number =>
      let whole := number.takeWhile Text.isDecimalDigit
      match number.dropWhile Text.isDecimalDigit with
      | [] => !whole.isEmpty
      | '.' :: fraction => !fraction.isEmpty && fraction.all Text.isDecimalDigit
      | _ => false
  | _ => false

def hitOf (name : String) (switch : Switch) (joined : Option (List Char)) : Hit :=
  ⟨some switch, !name.startsWith "--", joined⟩

/-- The switches that a shortened name, or a short name with a joined value, can mean. -/
def candidates (grammar : Grammar) (text : List Char) : List (String × Hit) :=
  match text with
  | '-' :: '-' :: _ =>
      let (start, value) := splitAtEquals text
      (grammar.names.filter fun (name, _) => start.isPrefixOf name.toList).map fun (name, switch) =>
        (name, hitOf name switch value)
  | _ =>
      grammar.names.filterMap fun (name, switch) =>
        if name.toList == text.take 2 then some (name, hitOf name switch (some (text.drop 2)))
        else if text.isPrefixOf name.toList then some (name, hitOf name switch none)
        else none

/-- The hit of a name that is written out, also before an equals sign. -/
def exactHit? (grammar : Grammar) (text : List Char) : Option Hit :=
  match grammar.names.lookup (String.ofList text) with
  | some switch => some (hitOf (String.ofList text) switch none)
  | none =>
      let (start, value) := splitAtEquals text
      if value.isNone then none
      else
        (grammar.names.lookup (String.ofList start)).map fun switch =>
          hitOf (String.ofList start) switch value

def markOf (grammar : Grammar) (argument : String) : Except Stop Mark :=
  let text := argument.toList
  match text with
  | '-' :: _ :: _ =>
      match exactHit? grammar text with
      | some hit => .ok (.switch hit)
      | none =>
          match candidates grammar text with
          | [(_, hit)] => .ok (.switch hit)
          | [] =>
              if isNegativeNumber text || text.contains ' ' then .ok .operand
              else .ok (.switch { switch? := none })
          | several =>
              .error (.refused grammar ("ambiguous option: " ++ argument ++ " could match " ++
                ", ".intercalate (several.map (·.1))))
  | _ => .ok .operand

def marks (grammar : Grammar) : List String → Except Stop (List (String × Mark))
  | [] => .ok []
  | argument :: rest =>
      if argument == "--" then
        .ok ((argument, .hyphens) :: rest.map fun operand => (operand, .operand))
      else do
        let mark ← markOf grammar argument
        return (argument, mark) :: (← marks grammar rest)

/-! ## Taking arguments apart -/

/-- Switches with their values, and a switch at the end whose value is still to come. -/
structure Taken where
  complete : List (Switch × String) := []
  pending : Option Switch := none

def settingsOf (grammar : Grammar) (complete : List (Switch × String)) :
    Except Stop (List Setting) :=
  complete.mapM fun (switch, value) => settingOf grammar switch value

def takeBare (switch : Switch) : Taken :=
  if switch.takesValue then { pending := some switch } else { complete := [(switch, "")] }

/-- A switch with a joined text: its value, or further short switches. -/
def takeJoined (grammar : Grammar) (isShort : Bool) (switch : Switch) :
    List Char → Except Stop Taken
  | [] =>
      if switch.takesValue then .ok { complete := [(switch, "")] }
      else refuse grammar switch ("ignored explicit argument " ++ Text.quoted "")
  | c :: rest =>
      let joined := String.ofList (c :: rest)
      let refusal := refuse grammar switch ("ignored explicit argument " ++ Text.quoted joined)
      if switch.takesValue then .ok { complete := [(switch, joined)] }
      else if !isShort then refusal
      else
        match grammar.names.lookup (String.ofList ['-', c]) with
        | none => refusal
        | some next => do
            let taken ←
              if rest.isEmpty then pure (takeBare next) else takeJoined grammar true next rest
            return { taken with complete := (switch, "") :: taken.complete }

def takeHit (grammar : Grammar) (switch : Switch) (hit : Hit) : Except Stop Taken :=
  match hit.joined with
  | none => .ok (takeBare switch)
  | some text => takeJoined grammar hit.isShort switch text

structure Found where
  settings : List Setting := []
  operands : Option (List String) := none
  running : Bool := false
  /-- Switches that wait for the value of the last of them. -/
  pending : Option (List (Switch × String) × Switch) := none
  extras : List String := []

namespace Found

def withSettings (found : Found) (settings : List Setting) : Found :=
  { found with settings := found.settings ++ settings, running := false, pending := none }

def withExtra (found : Found) (argument : String) : Found :=
  { found with extras := found.extras ++ [argument], running := false }

/-- Add an operand, when only one run of them is taken. -/
def withPath (found : Found) (argument : String) : Found :=
  if found.running || found.operands.isNone then
    { found with operands := some (found.operands.getD [] ++ [argument]), running := true }
  else found.withExtra argument

end Found

def takeArgument (grammar : Grammar) (found : Found) (argument : String) :
    Mark → Except Stop Found
  | .switch hit =>
      match hit.switch? with
      | none => .ok (found.withExtra argument)
      | some switch => do
          let taken ← takeHit grammar switch hit
          match taken.pending with
          | none => return found.withSettings (← settingsOf grammar taken.complete)
          | some last => return { found with pending := some (taken.complete, last) }
  | _ =>
      match grammar.operands with
      | .paths => .ok (found.withPath argument)
      | _ => .ok (found.withExtra argument)

/-- A command starts at an argument: at an operand, or at two hyphens that are not the last. -/
def startsCommand (grammar : Grammar) (mark : Mark) (isLast : Bool) : Bool :=
  grammar.operands == .command &&
    match mark with
    | .operand => true
    | .hyphens => !isLast
    | .switch _ => false

def gather (grammar : Grammar) (found : Found) : List (String × Mark) → Except Stop Found
  | [] =>
      match found.pending with
      | some (_, last) => refuse grammar last "expected one argument"
      | none => .ok found
  | (argument, mark) :: rest =>
      match found.pending, mark with
      | some (complete, last), .operand => do
          let settings ← settingsOf grammar (complete ++ [(last, argument)])
          gather grammar (found.withSettings settings) rest
      | some (_, last), _ => refuse grammar last "expected one argument"
      | none, _ =>
          if startsCommand grammar mark rest.isEmpty then
            .ok { found with operands := some (argument :: rest.map (·.1)) }
          else do gather grammar (← takeArgument grammar found argument mark) rest

def takeApart (grammar : Grammar) (arguments : List String) : Except Stop Found := do
  gather grammar {} (← marks grammar arguments)

/-! ## Commands -/

structure CheckOptions where
  paths : List String := []
  config : Option String := none
  format : Format := .text
  failOn : Threshold := .severity .must
  workers : Option Int := none
  deriving DecidableEq

inductive Command where
  | check (options : CheckOptions)
  | rules (format : Format)
  | absent
  deriving DecidableEq

structure Invocation where
  command : Command
  logLevel : Option String := none
  logJson : Bool := false
  deriving DecidableEq

def CheckOptions.set (options : CheckOptions) : Setting → CheckOptions
  | .config path => { options with config := some path }
  | .format format => { options with format := format }
  | .failOn threshold => { options with failOn := threshold }
  | .workers count => { options with workers := some count }
  | _ => options

def Invocation.set (invocation : Invocation) : Setting → Invocation
  | .logLevel word => { invocation with logLevel := some word }
  | .logJson => { invocation with logJson := true }
  | _ => invocation

def formatOf (settings : List Setting) : Format :=
  settings.foldl
    (fun format setting =>
      match setting with
      | .format next => next
      | _ => format) .text

/-- A command by its name with its arguments, and the arguments that nothing takes. -/
def commandOf (name : String) (arguments : List String) : Except Stop (Command × List String) :=
  match name with
  | "check" => do
      let found ← takeApart .check arguments
      let paths := (found.operands.getD []).erase "--"
      return (.check (found.settings.foldl CheckOptions.set { paths := paths }), found.extras)
  | "rules" => do
      let found ← takeApart .rules arguments
      return (.rules (formatOf found.settings), found.extras)
  | _ =>
      .error (.refused .top ("argument command: " ++ choiceMessage name ["check", "rules"]))

def parse (arguments : List String) : Except Stop Invocation := do
  let found ← takeApart .top arguments
  let (command, extras) ← match found.operands with
    | some (name :: rest) => commandOf name rest
    | _ => pure (.absent, [])
  let unknown := found.extras ++ extras
  if unknown.isEmpty then return found.settings.foldl Invocation.set { command := command }
  else throw (.refused .top ("unrecognized arguments: " ++ " ".intercalate unknown))

end WorkflowLint.Cli
