import WorkflowLint.Text.Blank

/-!
Contract: the source line of a node.

Owns: a scan, line by line, for the first `"id": "..."` and the first `"name": "..."` pair of each
line.  The last line with a value counts, and the line of a node's name is preferred to that of its
id.  Texts that are not written that way, such as YAML, give no lines.
-/

set_option autoImplicit false

namespace WorkflowLint.Document

/-- The lines of a text, divided by line feeds with or without a carriage return. -/
def splitLines : List Char → List (List Char)
  | [] => [[]]
  | '\n' :: rest => [] :: splitLines rest
  | '\r' :: '\n' :: rest => [] :: splitLines rest
  | c :: rest =>
      match splitLines rest with
      | line :: lines => (c :: line) :: lines
      | [] => [[c]]

def afterText : List Char → List Char → Option (List Char)
  | [], text => some text
  | k :: keyword, c :: text => if k == c then afterText keyword text else none
  | _ :: _, [] => none

/-- The value of a pair with this key at the front: the key in quotes, a colon, blanks, and a text
in quotes that is not empty. -/
def pairAt? (key : List Char) (text : List Char) : Option (List Char) := do
  let rest ← afterText ('"' :: key ++ ['"', ':']) text
  let rest ← afterText ['"'] (rest.dropWhile Text.isBlank)
  let value := rest.takeWhile (· != '"')
  if value.isEmpty || value.length == rest.length then none else some value

/-- The value of the first pair with this key. -/
def firstPair? (key : List Char) : List Char → Option (List Char)
  | [] => none
  | c :: rest =>
      match pairAt? key (c :: rest) with
      | some value => some value
      | none => firstPair? key rest

structure LineValues where
  names : List (Option (List Char))
  ids : List (Option (List Char))

def lineValues (text : List Char) : LineValues :=
  let lines := splitLines text
  ⟨lines.map (firstPair? "name".toList), lines.map (firstPair? "id".toList)⟩

/-- Number, from one on, of the last line with a value. -/
def lastLine? (value : String) (values : List (Option (List Char))) : Option Nat :=
  ((values.zipIdx 1).reverse.find? fun (found, _) => found == some value.toList).map (·.2)

/-- The line of a node by its name, or else by its id. -/
def LineValues.lineOf? (lines : LineValues) (id : Option String) (name : Option String) :
    Option Nat :=
  let byName := (name.filter (!·.isEmpty)).bind fun text => lastLine? text lines.names
  byName.or (id.bind fun text => lastLine? text lines.ids)

end WorkflowLint.Document
