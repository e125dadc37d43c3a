import WorkflowLint.Regex.Fault
import WorkflowLint.Regex.Pattern

/-!
Contract: a pattern text while it is read.

Owns: the reader's state with the tokens, the groups met so far and the flags of the whole pattern.
A token is a character, or a backslash with the character behind it.  One token is always read
ahead, so a backslash at the end of the text is found before the token in front of it is used.
-/

set_option autoImplicit false

namespace WorkflowLint.Regex

structure Flags where
  ignoreCase : Bool := false
  multiline : Bool := false
  dotAll : Bool := false
  verbose : Bool := false
  ascii : Bool := false
  unicode : Bool := false
  template : Bool := false
  deriving DecidableEq

namespace Flags

def union (left right : Flags) : Flags where
  ignoreCase := left.ignoreCase || right.ignoreCase
  multiline := left.multiline || right.multiline
  dotAll := left.dotAll || right.dotAll
  verbose := left.verbose || right.verbose
  ascii := left.ascii || right.ascii
  unicode := left.unicode || right.unicode
  template := left.template || right.template

def shared (left right : Flags) : Flags where
  ignoreCase := left.ignoreCase && right.ignoreCase
  multiline := left.multiline && right.multiline
  dotAll := left.dotAll && right.dotAll
  verbose := left.verbose && right.verbose
  ascii := left.ascii && right.ascii
  unicode := left.unicode && right.unicode
  template := left.template && right.template

/-- The flags inside a group that adds some and removes others.  A character set flag replaces the
one around the group. -/
def within (flags added removed : Flags) : Flags :=
  let typed := added.ascii || added.unicode
  let outer := if typed then { flags with ascii := false, unicode := false } else flags
  let joined := outer.union added
  { joined with
    ignoreCase := joined.ignoreCase && !removed.ignoreCase
    multiline := joined.multiline && !removed.multiline
    dotAll := joined.dotAll && !removed.dotAll
    verbose := joined.verbose && !removed.verbose }

def ofLetter? : Char → Option Flags
  | 'i' => some { ignoreCase := true }
  | 'm' => some { multiline := true }
  | 's' => some { dotAll := true }
  | 'x' => some { verbose := true }
  | 'a' => some { ascii := true }
  | 'u' => some { unicode := true }
  | 't' => some { template := true }
  | _ => none

def mode (flags : Flags) : CaseMode :=
  if flags.ignoreCase then (if flags.ascii then .ascii else .full) else .exact

end Flags

structure Source where
  pattern : List Char
  next : Option (List Char)
  rest : List Char
  index : Nat
  /-- Widths of the groups by number, `none` while a group is open.  Group zero stays open. -/
  groups : Array (Option Width)
  names : List (String × Nat)
  /-- Inside a look behind: the number of groups when it started. -/
  behind : Option Nat
  /-- Groups that conditions mention, with the positions. -/
  mentioned : List (Nat × Nat)
  flags : Flags
  /-- A cause that counts only when the text has no other fault. -/
  deferred : Option Cause

abbrev Step := StateT Source (Except Fault)

namespace Step

def advance : Step Unit := do
  let source ← get
  match source.rest with
  | [] => set { source with next := none }
  | ['\\'] => throw (.ofPlace source.pattern .loneBackslash (source.pattern.length - 1))
  | '\\' :: c :: rest =>
      set { source with next := some ['\\', c], rest := rest, index := source.index + 2 }
  | c :: rest => set { source with next := some [c], rest := rest, index := source.index + 1 }

def peek : Step (Option (List Char)) := return (← get).next

def tell : Step Nat := do
  let source ← get
  return source.index - (source.next.getD []).length

def take : Step (Option (List Char)) := do
  let token ← peek
  advance
  return token

def accept (c : Char) : Step Bool := do
  if (← peek) == some [c] then
    advance
    return true
  else return false

def seek (position : Nat) : Step Unit := do
  modify fun source =>
    { source with rest := source.pattern.drop position, index := position, next := none }
  advance

/-- A fault so many characters before the token read ahead. -/
def fail {α : Type} (cause : Cause) (back : Nat) : Step α := do
  throw (.ofPlace (← get).pattern cause ((← tell) - back))

def failAt {α : Type} (cause : Cause) (position : Nat) : Step α := do
  throw (.ofPlace (← get).pattern cause position)

def defer (cause : Cause) : Step Unit :=
  modify fun source => { source with deferred := source.deferred.or (some cause) }

def takeWhile (among : Char → Bool) : Nat → Step (List Char)
  | 0 => return []
  | count + 1 => do
      match ← peek with
      | some [c] =>
          if among c then
            advance
            return c :: (← takeWhile among count)
          else return []
      | _ => return []

/-- Take the characters up to a terminator, which is taken too. -/
def takeUntil (terminator : Char) (kind : String) : Nat → List Char → Step (List Char)
  | 0, _ => fail (.missingName kind) 0
  | fuel + 1, taken => do
      match ← take with
      | none =>
          if taken.isEmpty then fail (.missingName kind) 0
          else fail (.unterminatedName terminator) taken.length
      | some token =>
          if token == [terminator] then
            if taken.isEmpty then fail (.missingName kind) 1 else return taken
          else takeUntil terminator kind fuel (taken ++ token)

def name (terminator : Char) (kind : String) : Step (List Char) := do
  takeUntil terminator kind ((← get).pattern.length + 1) []

end Step

end WorkflowLint.Regex
