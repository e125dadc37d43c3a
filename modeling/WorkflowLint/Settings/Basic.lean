import WorkflowLint.Config.Checked
import WorkflowLint.Settings.Dotenv
import WorkflowLint.Text.Lowercase

/-!
Contract: settings of the process.

Owns: the settings and how they are read from variables.  The names of variables have a common start
and are compared without regard to case; the environment wins over a file.
-/

set_option autoImplicit false

namespace WorkflowLint

structure Settings where
  logLevel : String := "warning"
  logJson : Bool := false
  documentationBase : String := "https://github.com/Replikanti/flowlint-examples/tree/main"
  maxWorkers : Int := 1
  deriving DecidableEq

namespace Settings

/-- Variables by the lower case of their names; the last of one name counts. -/
def lowered (given : Dotenv.Variables) : Dotenv.Variables :=
  given.foldl (fun known (name, value) => Dotenv.set (Text.lower name) value known) []

def nameStart : String := "flowlint_"

def valueIn (given : Dotenv.Variables) (field : String) : Option String :=
  ((lowered given).lookup (nameStart ++ field)).join

def entries (environment file : Dotenv.Variables) : List (Value × Value) :=
  ["log_level", "log_json", "docs_base_url", "max_workers"].filterMap fun field =>
    ((valueIn environment field).or (valueIn file field)).map fun text =>
      (Value.str field, .str text)

def ofEntries (entries : List (Value × Value)) : Checked Settings :=
  let usual : Settings := {}
  ((Value.readField entries "log_level" usual.logLevel Value.readText).map Settings.mk)
    |>.apply (Value.readField entries "log_json" usual.logJson Value.readBool)
    |>.apply (Value.readField entries "docs_base_url" usual.documentationBase Value.readText)
    |>.apply (Value.readField entries "max_workers" usual.maxWorkers Value.readInt)

def read (environment : List (String × String)) (file : String) : Checked Settings :=
  let given := environment.map fun (name, value) => (name, some value)
  ofEntries (entries given (Dotenv.read environment file.toList))

def toValue (settings : Settings) : Value :=
  .record [("log_level", .str settings.logLevel), ("log_json", .bool settings.logJson),
    ("docs_base_url", .str settings.documentationBase), ("max_workers", .int settings.maxWorkers)]

end Settings

end WorkflowLint
