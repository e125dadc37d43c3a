import WorkflowLint.Cli.Run

/-!
Contract: the program.

Owns: the environment, the files of the current folder, and the streams.  Everything that is decided is
decided by `Cli.run`.
-/

set_option autoImplicit false

namespace WorkflowLint.Program

def environment : IO (List (String × String)) := do
  let names := ["FLOWLINT_LOG_LEVEL", "FLOWLINT_LOG_JSON", "FLOWLINT_DOCS_BASE_URL",
    "FLOWLINT_MAX_WORKERS"]
  let values ← names.mapM fun name => do
    return (← IO.getEnv name).map fun value => (name, value)
  return values.filterMap id

/-- The tree at an entry of a folder; what cannot be read is empty. -/
partial def treeAt (entry : IO.FS.DirEntry) : IO FileTree := do
  try
    if ← entry.path.isDir then
      let entries ← entry.path.readDir
      let trees ← entries.toList.mapM fun below => return (below.fileName, ← treeAt below)
      return .folder trees
    else
      return .file (← IO.FS.readBinFile entry.path).toList
  catch _ => return .file []

def workspace : IO Workspace := do
  let here ← IO.currentDir
  let entries ← here.readDir
  let trees ← entries.toList.mapM fun entry => return (entry.fileName, ← treeAt entry)
  return ⟨here.toString, .folder trees⟩

/-- The text of the file of variables, empty when there is none. -/
def variableText (folder : Workspace) : String :=
  match folder.tree.at? [".env"] with
  | some (.file content) =>
      match fileText content with
      | .ok text => text
      | .error _ => ""
  | _ => ""

def noteText (eventsAsJson : Bool) (elapsed : Nat) : Cli.Note → String
  | .line text => text
  | .usage text => text
  | .event event =>
      if eventsAsJson then String.ofList (Json.compact event.toValue)
      else event.line (toString elapsed)

def faultText : Cli.Fault → String
  | .level fault => fault.message
  | .config fault => fault.message
  | .glob fault => fault.message
  | .lint (.rule fault) => fault.message
  | .lint (.document _) => "a document holds a scalar that cannot be read"
  | .hyphensAsValue => "two hyphens are no value"

def present (output : Cli.Output) : IO UInt32 := do
  let errors ← IO.getStderr
  for note in output.notes do
    errors.putStrLn (noteText output.eventsAsJson (← IO.monoMsNow) note)
  IO.print output.report
  return UInt32.ofNat output.exitCode

def start (arguments : List String) : IO UInt32 := do
  let folder ← workspace
  match Settings.read (← environment) (variableText folder) with
  | .fails details =>
      for detail in details do
        IO.eprintln detail.mismatch.message
      return 1
  | .fits settings =>
      match Cli.run settings folder arguments with
      | .ok output => present output
      | .error fault =>
          IO.eprintln (faultText fault)
          return 1

end WorkflowLint.Program

def main (arguments : List String) : IO UInt32 := WorkflowLint.Program.start arguments
