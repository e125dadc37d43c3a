import WorkflowLint.Config.Text
import WorkflowLint.Files.Tree

/-!
Contract: configurations from files.

Owns: the names under which a configuration is found, and the reading of the file.  A path that is
given and leads nowhere means the usual configuration.
-/

set_option autoImplicit false

namespace WorkflowLint.Config

/-- The names of configuration files, the first that is there counts. -/
def fileNames : List String := [".flowlint.yml", ".flowlint.yaml", "flowlint.config.yml"]

inductive Source where
  | usual
  /-- A given path that leads nowhere: the usual configuration. -/
  | missing (path : FilePath)
  | file (path : FilePath)
  deriving DecidableEq

inductive FileFault where
  | folder (path : FilePath)
  | undecodable (fault : Text.Utf8.Fault)
  | content (fault : Fault)

def FileFault.message : FileFault → String
  | .folder path =>
      "Cannot read config file " ++ path.text ++ ": [Errno 21] Is a directory: " ++
        Text.quoted path.text
  | .undecodable fault => fault.message
  | .content fault => fault.message

/-- Drop the parts that lead up, together with what they lead out of. -/
def settle (parts : List String) : List String :=
  (parts.foldl (fun kept part => if part == ".." then kept.drop 1 else part :: kept) []).reverse

def discover (workspace : Workspace) (folder : List String) : Source :=
  let candidates := fileNames.map fun name => workspace.here.below (settle folder ++ [name])
  match candidates.find? workspace.hasFile with
  | some path => .file path
  | none => .usual

/-- Where the configuration comes from: a given path, or a file of the current folder. -/
def source (workspace : Workspace) (given : Option String) : Source :=
  match given with
  | none => discover workspace []
  | some text =>
      let path := FilePath.ofText text
      if (workspace.find? path).isSome then .file path else .missing path

def fileContent (workspace : Workspace) (path : FilePath) : Except FileFault String :=
  match workspace.find? path with
  | some (.file content) =>
      match fileText content with
      | .ok text => .ok text
      | .error fault => .error (.undecodable fault)
  | _ => .error (.folder path)

def ofFileText (text : String) : Except FileFault Config :=
  match ofText text.toList with
  | .ok config => .ok config
  | .error fault => .error (.content fault)

def ofSource (workspace : Workspace) : Source → Except FileFault Config
  | .usual => .ok usual
  | .missing _ => .ok usual
  | .file path => fileContent workspace path >>= ofFileText

end WorkflowLint.Config
