import WorkflowLint.Text.Utf8

/-!
Contract: files and folders.

Owns: a tree of files, paths written with slashes, and what stands at a path.  A path is taken from
the current folder, whose own place is known by its text only.
-/

set_option autoImplicit false

namespace WorkflowLint

inductive FileTree where
  | file (content : List UInt8)
  | folder (entries : List (String × FileTree))

namespace FileTree

def empty : FileTree := .folder []

def isFile : FileTree → Bool
  | .file _ => true
  | .folder _ => false

def isFolder : FileTree → Bool
  | .file _ => false
  | .folder _ => true

/-- The entries of a folder; a file has none. -/
def entries : FileTree → List (String × FileTree)
  | .file _ => []
  | .folder entries => entries

/-- Change the entry with a name, which starts as an empty folder when there is none. -/
def changeEntry (name : String) (change : FileTree → FileTree) :
    List (String × FileTree) → List (String × FileTree)
  | [] => [(name, change empty)]
  | (other, tree) :: rest =>
      if other == name then (other, change tree) :: rest
      else (other, tree) :: changeEntry name change rest

def put (tree : FileTree) : List String → FileTree → FileTree
  | [], _ => tree
  | name :: path, into => .folder (changeEntry name (put tree path) into.entries)

def putFolder : List String → FileTree → FileTree
  | [], into => into
  | name :: path, into => .folder (changeEntry name (putFolder path) into.entries)

/-- What stands at a path below a tree, with the folders above it.  Above the topmost folder there is
a folder of which nothing is known. -/
def walk (above : List FileTree) (tree : FileTree) : List String → Option FileTree
  | [] => some tree
  | name :: path =>
      if !tree.isFolder then none
      else if name == ".." then
        match above with
        | parent :: more => walk more parent path
        | [] => walk [] empty path
      else
        match tree.entries.lookup name with
        | some entry => walk (tree :: above) entry path
        | none => none

def at? (tree : FileTree) (path : List String) : Option FileTree :=
  walk [] tree path

mutual

/-- The paths of all folders of a tree that stands at a path, itself included. -/
def folders (path : List String) : FileTree → List (List String)
  | .file _ => []
  | .folder entries => path :: foldersOf path entries

def foldersOf (path : List String) : List (String × FileTree) → List (List String)
  | [] => []
  | (name, tree) :: rest => folders (path ++ [name]) tree ++ foldersOf path rest

end

end FileTree

/-! ## Paths -/

/-- A path: where it starts, which is an empty text for the current folder, and its parts. -/
structure FilePath where
  anchor : String := ""
  parts : List String := []
  deriving DecidableEq

namespace FilePath

/-- The parts of a text between slashes, without empty parts and single points. -/
def splitParts (text : String) : List String :=
  ((text.toList.splitOn '/').map String.ofList).filter fun part => part != "" && part != "."

/-- The slashes at the start that count: none, one, or exactly two. -/
def anchorOf (text : String) : String :=
  match text.toList with
  | '/' :: '/' :: '/' :: _ => "/"
  | '/' :: '/' :: _ => "//"
  | '/' :: _ => "/"
  | _ => ""

def ofText (text : String) : FilePath := ⟨anchorOf text, splitParts text⟩

def text (path : FilePath) : String :=
  let parts := "/".intercalate path.parts
  if path.anchor.isEmpty then (if path.parts.isEmpty then "." else parts)
  else if path.parts.isEmpty then path.anchor
  else if path.anchor.endsWith "/" then path.anchor ++ parts
  else path.anchor ++ "/" ++ parts

def below (path : FilePath) (parts : List String) : FilePath :=
  { path with parts := path.parts ++ parts }

end FilePath

/-! ## The current folder -/

/-- The current folder: the text of its place, and its tree. -/
structure Workspace where
  place : String
  tree : FileTree

namespace Workspace

def here (workspace : Workspace) : FilePath := ⟨workspace.place, []⟩

def inside? (workspace : Workspace) (path : FilePath) : Option (List String) :=
  if path.anchor.isEmpty || path.anchor == workspace.place then some path.parts
  else
    let place := FilePath.splitParts workspace.place
    if place.isPrefixOf path.parts then some (path.parts.drop place.length) else none

def find? (workspace : Workspace) (path : FilePath) : Option FileTree :=
  (workspace.inside? path).bind workspace.tree.at?

def hasFile (workspace : Workspace) (path : FilePath) : Bool :=
  (workspace.find? path).any FileTree.isFile

def hasFolder (workspace : Workspace) (path : FilePath) : Bool :=
  (workspace.find? path).any FileTree.isFolder

end Workspace

/-! ## Texts of files -/

/-- Every end of line as a line feed. -/
def joinLineEnds : List Char → List Char
  | [] => []
  | '\r' :: '\n' :: rest => '\n' :: joinLineEnds rest
  | '\r' :: rest => '\n' :: joinLineEnds rest
  | c :: rest => c :: joinLineEnds rest

def fileText (content : List UInt8) : Except Text.Utf8.Fault String :=
  (Text.Utf8.decode content).map fun text => String.ofList (joinLineEnds text)

end WorkflowLint
