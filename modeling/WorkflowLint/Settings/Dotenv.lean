import WorkflowLint.Text.Blank

/-!
Contract: variables written in a file, one a line.

Owns: the reading of such files and the replacement of references to variables.  Values may stand in
quotes, in which escapes are read.  A line that cannot be read is passed over.  A reference is written
with a dollar sign and braces, and may give a text for a variable that is not set.
-/

set_option autoImplicit false

namespace WorkflowLint.Dotenv

def isLineBlank (c : Char) : Bool :=
  Text.isBlank c && c != '\r' && c != '\n'

def isLineEnd (c : Char) : Bool := c == '\r' || c == '\n'

/-! ## Parts of a line -/

def skipExport (text : List Char) : List Char :=
  match text with
  | 'e' :: 'x' :: 'p' :: 'o' :: 'r' :: 't' :: c :: rest =>
      if isLineBlank c then rest.dropWhile isLineBlank else text
  | _ => text

def isKeyChar (c : Char) : Bool := c != '=' && c != '#' && !Text.isBlank c

/-- The key at the start of a line, none for a comment, and what follows. -/
def readKey? (text : List Char) : Option (Option (List Char) × List Char) :=
  match text with
  | '#' :: _ => some (none, text)
  | '\'' :: rest =>
      match rest.takeWhile (· != '\''), rest.dropWhile (· != '\'') with
      | c :: key, _ :: after => some (some (c :: key), after)
      | _, _ => none
  | _ =>
      match text.takeWhile isKeyChar with
      | [] => none
      | key => some (some key, text.dropWhile isKeyChar)

/-- The text up to a quote that closes it, and what follows.  Without a quote that is not escaped the
last escaped one closes. -/
def readQuoted? (quote : Char) (before : List Char) : List Char → Option (List Char × List Char)
  | [] => none
  | '\\' :: next :: rest =>
      if next == quote then
        (readQuoted? quote (next :: '\\' :: before) rest).or
          (some (('\\' :: before).reverse, rest))
      else readQuoted? quote ('\\' :: before) (next :: rest)
  | c :: rest =>
      if c == quote then some (before.reverse, rest) else readQuoted? quote (c :: before) rest

def escapedChar? (c : Char) : Option Char :=
  match c with
  | '\\' => some '\\'
  | '\'' => some '\''
  | '"' => some '"'
  | 'a' => some '\x07'
  | 'b' => some '\x08'
  | 'f' => some '\x0c'
  | 'n' => some '\n'
  | 'r' => some '\r'
  | 't' => some '\t'
  | 'v' => some '\x0b'
  | _ => none

def plainEscape? (c : Char) : Option Char :=
  if c == '\\' || c == '\'' then some c else none

/-- The text with its escapes read; other backslashes stay. -/
def readEscapes (escape? : Char → Option Char) : List Char → List Char
  | [] => []
  | '\\' :: c :: rest =>
      match escape? c with
      | some meant => meant :: readEscapes escape? rest
      | none => '\\' :: readEscapes escape? (c :: rest)
  | c :: rest => c :: readEscapes escape? rest

/-- The text up to blanks that are followed by a comment. -/
def dropComment : List Char → List Char
  | [] => []
  | c :: rest =>
      if Text.isBlank c && (rest.dropWhile Text.isBlank).head? == some '#' then []
      else c :: dropComment rest

def readValue? (text : List Char) : Option (List Char × List Char) :=
  match text with
  | '\'' :: rest =>
      (readQuoted? '\'' [] rest).map fun (value, after) => (readEscapes plainEscape? value, after)
  | '"' :: rest =>
      (readQuoted? '"' [] rest).map fun (value, after) => (readEscapes escapedChar? value, after)
  | _ =>
      let line := text.takeWhile fun c => !isLineEnd c
      let value := (dropComment line).reverse.dropWhile Text.isBlank
      some (value.reverse, text.dropWhile fun c => !isLineEnd c)

def skipLineEnd : List Char → List Char
  | '\r' :: '\n' :: rest => rest
  | c :: rest => if isLineEnd c then rest else c :: rest
  | [] => []

def skipLine (text : List Char) : List Char :=
  skipLineEnd (text.dropWhile fun c => !isLineEnd c)

/-- What follows blanks, a comment and the end of the line; nothing when something else stands
there. -/
def finishLine? (text : List Char) : Option (List Char) :=
  let bare := text.dropWhile isLineBlank
  let bare := if bare.head? == some '#' then bare.dropWhile fun c => !isLineEnd c else bare
  match bare with
  | [] => some []
  | c :: _ => if isLineEnd c then some (skipLineEnd bare) else none

/-- What a line says: a key with its value, a key alone, or nothing. -/
structure Binding where
  key : Option (List Char)
  value : Option (List Char)

/-- The binding at the start of a text, none for a line that cannot be read, and what follows. -/
def readBinding (text : List Char) : Option Binding × List Char :=
  let start := skipExport text
  match readKey? start with
  | none => (none, skipLine start)
  | some (key, after) =>
      let after := after.dropWhile isLineBlank
      let value? : Option (Option (List Char) × List Char) :=
        match after with
        | '=' :: rest =>
            (readValue? (rest.dropWhile isLineBlank)).map fun (value, left) => (some value, left)
        | _ => some (none, after)
      match value? with
      | none => (none, skipLine (after.drop 1))
      | some (value, left) =>
          match finishLine? left with
          | some next => (some ⟨key, value⟩, next)
          | none => (none, skipLine left)

/-- The bindings of a text; `fuel` is at least its length. -/
def bindingsFrom : Nat → List Char → List Binding
  | 0, _ => []
  | fuel + 1, text =>
      match text.dropWhile Text.isBlank with
      | [] => []
      | start =>
          let (binding, rest) := readBinding start
          binding.toList ++ bindingsFrom fuel rest

/-! ## References to variables -/

/-- A variable and its value, if it has one. -/
abbrev Variables := List (String × Option String)

/-- Set a variable; a variable that is set already keeps its place. -/
def set (name : String) (value : Option String) : Variables → Variables
  | [] => [(name, value)]
  | (other, old) :: rest =>
      if other == name then (name, value) :: rest else (other, old) :: set name value rest

/-- The name and the text for an unset variable of a reference, and what follows it. -/
def readReference? (text : List Char) : Option (List Char × List Char × List Char) :=
  let name := text.takeWhile fun c => c != '\x7d' && c != ':'
  match text.dropWhile fun c => c != '\x7d' && c != ':' with
  | '\x7d' :: rest => some (name, [], rest)
  | ':' :: '-' :: rest =>
      match rest.dropWhile (· != '\x7d') with
      | _ :: after => some (name, rest.takeWhile (· != '\x7d'), after)
      | [] => none
  | _ => none

/-- The text with its references replaced; `fuel` is at least its length. -/
def expand (lookup : String → Option (Option String)) : Nat → List Char → List Char
  | 0, _ => []
  | _, [] => []
  | fuel + 1, '$' :: '\x7b' :: rest =>
      match readReference? rest with
      | some (name, instead, after) =>
          let value := match lookup (String.ofList name) with
            | some (some text) => text.toList
            | some none => []
            | none => instead
          value ++ expand lookup fuel after
      | none => '$' :: expand lookup fuel ('\x7b' :: rest)
  | fuel + 1, c :: rest => c :: expand lookup fuel rest

/-- Set the variable of a binding.  A reference means an earlier variable of the file, else one of the
environment. -/
def bind (environment : List (String × String)) (known : Variables) (binding : Binding) :
    Variables :=
  match binding.key with
  | none => known
  | some key =>
      let lookup (name : String) : Option (Option String) :=
        (known.lookup name).or ((environment.lookup name).map some)
      let value := binding.value.map fun text =>
        String.ofList (expand lookup text.length text)
      set (String.ofList key) value known

def read (environment : List (String × String)) (text : List Char) : Variables :=
  (bindingsFrom text.length text).foldl (bind environment) []

end WorkflowLint.Dotenv
