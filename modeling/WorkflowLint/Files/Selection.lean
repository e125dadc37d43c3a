import WorkflowLint.Config.Basic
import WorkflowLint.Files.Glob
import WorkflowLint.Files.Tree

/-!
Contract: which files are checked.

Owns: the meaning of include patterns over a tree, and the selection of files by include and ignore
patterns.  Selected files are in the order of their parts, each once.
-/

set_option autoImplicit false

namespace WorkflowLint

inductive GlobFault where
  | empty
  | absolute
  /-- Two stars stand beside other characters. -/
  | starsInName
  | noParts
  /-- The pattern has nothing but a slash at its end. -/
  | onlySlash
  deriving DecidableEq

/-- The wording of a fault; patterns without parts have none. -/
def GlobFault.message : GlobFault → String
  | .empty => "Unacceptable pattern: ''"
  | .absolute => "Non-relative patterns are unsupported"
  | .starsInName => "Invalid pattern: '**' can only be an entire path component"
  | .noParts => ""
  | .onlySlash => ""

inductive GlobPart where
  | name (name : String)
  | wildcard (pattern : String)
  | anyFolders
  deriving DecidableEq

structure IncludeGlob where
  parts : List GlobPart
  /-- A slash at the end: only folders are meant. -/
  foldersOnly : Bool
  deriving DecidableEq

namespace IncludeGlob

def hasDoubleStar : List Char → Bool
  | '*' :: '*' :: _ => true
  | _ :: rest => hasDoubleStar rest
  | [] => false

def partOf (text : String) : Except GlobFault GlobPart :=
  if text == "**" then .ok .anyFolders
  else if hasDoubleStar text.toList then .error .starsInName
  else if text.toList.any fun c => c == '*' || c == '?' || c == '[' then .ok (.wildcard text)
  else .ok (.name text)

def ofText (text : String) : Except GlobFault IncludeGlob := do
  if text.isEmpty then throw .empty
  if !(FilePath.anchorOf text).isEmpty then throw .absolute
  let foldersOnly := text.endsWith "/"
  let texts := FilePath.splitParts text
  if texts.isEmpty then throw (if foldersOnly then .onlySlash else .noParts)
  return ⟨← texts.mapM partOf, foldersOnly⟩

/-- An entry that may stand for a part: any entry at the end, a folder elsewhere. -/
def mayStand (foldersOnly : Bool) (rest : List GlobPart) (entry : FileTree) : Bool :=
  entry.isFolder || (rest.isEmpty && !foldersOnly)

def select (find : List String → Option FileTree) (foldersOnly : Bool) :
    List GlobPart → List String → List (List String)
  | [], path => [path]
  | .name name :: rest, path =>
      let next := path ++ [name]
      if (find next).any (mayStand foldersOnly rest) then select find foldersOnly rest next else []
  | .wildcard pattern :: rest, path =>
      let entries := ((find path).map FileTree.entries).getD []
      let fitting := entries.filter fun (name, entry) =>
        mayStand foldersOnly rest entry && Glob.fits pattern name
      fitting.flatMap fun (name, _) => select find foldersOnly rest (path ++ [name])
  | .anyFolders :: rest, path =>
      let folders := ((find path).map (FileTree.folders path)).getD []
      folders.flatMap fun folder => select find foldersOnly rest folder

end IncludeGlob

namespace Files

/-- The order of paths: part by part. -/
def precedes : List String → List String → Bool
  | [], _ => true
  | _ :: _, [] => false
  | left :: lefts, right :: rights =>
      if left == right then precedes lefts rights else left < right

def found (workspace : Workspace) (root : FilePath) (glob : IncludeGlob) : List (List String) :=
  if workspace.hasFolder root then
    IncludeGlob.select (fun path => workspace.find? (root.below path)) glob.foldersOnly glob.parts []
  else []

/-- The path leads to a file that no ignore pattern takes out. -/
def isSelected (workspace : Workspace) (root : FilePath) (ignores : List String)
    (path : List String) : Bool :=
  workspace.hasFile (root.below path) && !Glob.isIgnored ignores ("/".intercalate path)

def selected (workspace : Workspace) (root : FilePath) (files : FilesSection) :
    Except GlobFault (List (List String)) := do
  let globs ← files.includes.mapM IncludeGlob.ofText
  let paths := (globs.flatMap (found workspace root)).filter
    (isSelected workspace root files.ignores)
  return paths.eraseDups.mergeSort precedes

def collect (workspace : Workspace) (root : FilePath) (files : FilesSection) :
    Except GlobFault (List FilePath) := do
  return (← selected workspace root files).map root.below

/-- The texts of files, with the texts of their paths.  A path without a file has no bytes. -/
def read (workspace : Workspace) (paths : List FilePath) :
    Except Text.Utf8.Fault (List (String × String)) :=
  paths.mapM fun path => do
    let content := match workspace.find? path with
      | some (.file content) => content
      | _ => []
    return (path.text, ← fileText content)

end Files

end WorkflowLint
