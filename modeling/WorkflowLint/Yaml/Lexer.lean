import WorkflowLint.Yaml.Token
import WorkflowLint.Yaml.Scalar

/-!
Contract: the tokens of a text in order.

Owns: indentation, the keys that are recognised only when their mapping mark is met, and the order
in which tokens become final.  A token may still get a key mark in front of it as long as it is a
pending key, so tokens behind a pending key are not final yet.  When the text turns out wrong at
some place, the tokens that were final by then are kept beside the fault.
-/

set_option autoImplicit false

namespace WorkflowLint.Yaml

/-- A token that becomes a key when a mapping mark follows on its line. -/
structure PendingKey where
  depth : Nat
  place : Nat
  /-- Nothing but a key can stand there. -/
  required : Bool
  index : Nat
  line : Nat
  column : Nat

/-- A pending key reaches over at most this many characters. -/
def keyReach : Nat := 1024

structure Lexer where
  cursor : Cursor
  depth : Nat
  /-- Column of the block around the cursor. -/
  indent : Int
  /-- Columns of the blocks around that one. -/
  outer : List Int
  keyAllowed : Bool
  pending : List PendingKey
  tokens : Array Token
  /-- Number of tokens that are final. -/
  settled : Nat

namespace Lexer

def start (text : List Char) : Lexer :=
  ⟨Cursor.start text, 0, -1, [], true, [], #[], 0⟩

def inFlow (lexer : Lexer) : Bool := lexer.depth != 0

def push (lexer : Lexer) (token : Token) : Lexer :=
  { lexer with tokens := lexer.tokens.push token }

def insertAt (lexer : Lexer) (place : Nat) (token : Token) : Lexer :=
  { lexer with tokens := lexer.tokens.insertIdxIfInBounds place token }

def ownKey? (lexer : Lexer) : Option PendingKey :=
  lexer.pending.find? (·.depth == lexer.depth)

/-- Forget the pending key among the brackets of the cursor, which must not be a required one. -/
def dropKey (lexer : Lexer) : Except Fault Lexer :=
  match lexer.ownKey? with
  | none => .ok lexer
  | some key =>
      if key.required then .error .unreadable
      else .ok { lexer with pending := lexer.pending.filter (·.depth != lexer.depth) }

def noteKey (lexer : Lexer) : Except Fault Lexer :=
  if lexer.keyAllowed then do
    let lexer ← lexer.dropKey
    let cursor := lexer.cursor
    let key : PendingKey :=
      ⟨lexer.depth, lexer.tokens.size, !lexer.inFlow && lexer.indent == cursor.column,
        cursor.index, cursor.line, cursor.column⟩
    return { lexer with pending := key :: lexer.pending }
  else .ok lexer

def isStale (lexer : Lexer) (key : PendingKey) : Bool :=
  key.line != lexer.cursor.line || keyReach < lexer.cursor.index - key.index

/-- Forget pending keys that are out of reach, none of which must be required. -/
def dropStale (lexer : Lexer) : Except Fault Lexer :=
  let stale := lexer.pending.filter lexer.isStale
  if stale.any (·.required) then .error .unreadable
  else .ok { lexer with pending := lexer.pending.filter (!lexer.isStale ·) }

def closeBlocks (column : Int) : List Int → Lexer → Lexer
  | [], lexer => lexer
  | next :: outer, lexer =>
      if column < lexer.indent then
        closeBlocks column outer { lexer.push .blockEnd with indent := next, outer := outer }
      else lexer

/-- Close the blocks that are indented deeper than a column; inside brackets there are none. -/
def unwind (lexer : Lexer) (column : Int) : Lexer :=
  if lexer.inFlow then lexer else closeBlocks column lexer.outer lexer

/-- Open a block at a column when it is deeper than the one around it. -/
def openBlock (lexer : Lexer) (column : Nat) : Lexer × Bool :=
  if lexer.indent < column then
    ({ lexer with indent := column, outer := lexer.indent :: lexer.outer }, true)
  else (lexer, false)

def skipGap : Nat → Lexer → Lexer
  | 0, lexer => lexer
  | fuel + 1, lexer =>
      let cursor := lexer.cursor.skipSpaces.skipComment
      let (lineEnd, after) := cursor.lineBreak
      if lineEnd.isEmpty then { lexer with cursor := cursor }
      else
        let keyAllowed := lexer.keyAllowed || !lexer.inFlow
        skipGap fuel { lexer with cursor := after, keyAllowed := keyAllowed }

def markDocument (lexer : Lexer) : Except Fault Lexer := do
  let lexer ← (lexer.unwind (-1)).dropKey
  return { lexer with keyAllowed := false }

def pushMark (lexer : Lexer) (token : Token) : Lexer :=
  { lexer.push token with cursor := lexer.cursor.step }

def openFlow (lexer : Lexer) (token : Token) : Except Fault Lexer := do
  let lexer ← lexer.noteKey
  return { lexer.pushMark token with depth := lexer.depth + 1, keyAllowed := true }

def closeFlow (lexer : Lexer) (token : Token) : Except Fault Lexer := do
  let lexer ← lexer.dropKey
  return { lexer.pushMark token with depth := lexer.depth - 1, keyAllowed := false }

def flowEntry (lexer : Lexer) : Except Fault Lexer := do
  let lexer ← lexer.dropKey
  return { lexer.pushMark .flowEntry with keyAllowed := true }

/-- A mark that opens a block of its kind unless brackets are open. -/
def openForMark (lexer : Lexer) (opening : Token) : Except Fault Lexer :=
  if lexer.inFlow then .ok lexer
  else if !lexer.keyAllowed then .error .unreadable
  else
    let (lexer, opened) := lexer.openBlock lexer.cursor.column
    .ok (if opened then lexer.push opening else lexer)

def blockEntry (lexer : Lexer) : Except Fault Lexer := do
  let lexer ← (← lexer.openForMark .blockSequenceStart).dropKey
  return { lexer.pushMark .blockEntry with keyAllowed := true }

def explicitKey (lexer : Lexer) : Except Fault Lexer := do
  let lexer ← (← lexer.openForMark .blockMappingStart).dropKey
  return { lexer.pushMark .key with keyAllowed := !lexer.inFlow }

/-- The mark between key and value.  It turns a pending key into a key. -/
def mappingValue (lexer : Lexer) : Except Fault Lexer :=
  match lexer.ownKey? with
  | some key =>
      let lexer := { lexer with pending := lexer.pending.filter (·.depth != lexer.depth) }
      let lexer := lexer.insertAt key.place .key
      let (lexer, opened) :=
        if lexer.inFlow then (lexer, false) else lexer.openBlock key.column
      let lexer := if opened then lexer.insertAt key.place .blockMappingStart else lexer
      .ok { lexer.pushMark .value with keyAllowed := false }
  | none => do
      let lexer ← (← lexer.openForMark .blockMappingStart).dropKey
      return { lexer.pushMark .value with keyAllowed := !lexer.inFlow }

/-- A token that may be a key, given by its reader. -/
def keyToken (lexer : Lexer) (read : Cursor → Except Fault (Token × Cursor)) :
    Except Fault Lexer := do
  let lexer ← lexer.noteKey
  let (token, after) ← read lexer.cursor
  return { lexer.push token with cursor := after, keyAllowed := false }

/-- A plain scalar; a key may follow when it ended with its line. -/
def plainToken (lexer : Lexer) : Except Fault Lexer := do
  let lexer ← lexer.noteKey
  let read := plainScalar lexer.inFlow lexer.indent lexer.cursor
  return { lexer.push (.scalar (String.ofList read.text) true) with
    cursor := read.cursor, keyAllowed := read.brokeLine }

def blockToken (lexer : Lexer) : Except Fault Lexer := do
  let lexer ← lexer.dropKey
  let (text, after) ← blockScalar lexer.indent lexer.cursor
  return { lexer.push (.scalar (String.ofList text) false) with
    cursor := after, keyAllowed := true }

def isIndicator (c : Char) : Bool :=
  "-?:,[]\x7b\x7d#&*!|>'\"%@`".toList.contains c

def atPlain (lexer : Lexer) : Bool :=
  let c := lexer.cursor.peek
  !(isBlankOrEnd c || isIndicator c) ||
    (!isBlankOrEnd (lexer.cursor.peekAt 1) &&
      (c == '-' || (!lexer.inFlow && (c == '?' || c == ':'))))

def token (lexer : Lexer) : Except Fault Lexer := do
  let cursor := lexer.cursor
  let spaced := isBlankOrEnd (cursor.peekAt 1)
  let atStart := cursor.column == 0
  let mark := cursor.peek
  if mark == '%' && atStart then
    let lexer ← lexer.markDocument
    let (directive, after) ← readDirective cursor
    return { lexer.push (.directive directive) with cursor := after }
  else if atStart && cursor.atMarks '-' then
    let lexer ← lexer.markDocument
    return { lexer.push .documentStart with cursor := cursor.advance 3 }
  else if atStart && cursor.atMarks '.' then
    let lexer ← lexer.markDocument
    return { lexer.push .documentEnd with cursor := cursor.advance 3 }
  else if mark == '[' then lexer.openFlow .flowSequenceStart
  else if mark == '{' then lexer.openFlow .flowMappingStart
  else if mark == ']' then lexer.closeFlow .flowSequenceEnd
  else if mark == '}' then lexer.closeFlow .flowMappingEnd
  else if mark == ',' then lexer.flowEntry
  else if mark == '-' && spaced then lexer.blockEntry
  else if mark == '?' && (lexer.inFlow || spaced) then lexer.explicitKey
  else if mark == ':' && (lexer.inFlow || spaced) then lexer.mappingValue
  else if mark == '*' then
    lexer.keyToken fun cursor => (readAnchor cursor).map fun (name, after) => (.alias name, after)
  else if mark == '&' then
    lexer.keyToken fun cursor => (readAnchor cursor).map fun (name, after) => (.anchor name, after)
  else if mark == '!' then
    lexer.keyToken fun cursor => (readTag cursor).map fun (tag, after) => (.tag tag, after)
  else if (mark == '|' || mark == '>') && !lexer.inFlow then lexer.blockToken
  else if mark == '\'' || mark == '"' then
    lexer.keyToken fun cursor => (quotedScalar cursor).map fun (text, after) =>
      (.scalar (String.ofList text) false, after)
  else if lexer.atPlain then lexer.plainToken
  else throw .unreadable

/-- The tokens that no pending key keeps open are final. -/
def settle : Nat → Lexer → Lexer
  | 0, lexer => lexer
  | fuel + 1, lexer =>
      if lexer.settled < lexer.tokens.size && lexer.pending.all (·.place != lexer.settled) then
        settle fuel { lexer with settled := lexer.settled + 1 }
      else lexer

def next (lexer : Lexer) : Except Fault (Lexer × Bool) := do
  let lexer := skipGap (lexer.cursor.rest.length + 1) lexer
  let lexer ← lexer.dropStale
  let lexer := lexer.unwind lexer.cursor.column
  if lexer.cursor.peek == endMark then
    let lexer ← lexer.markDocument
    return ({ lexer.push .streamEnd with pending := [] }, true)
  else return (← lexer.token, false)

/-- The final tokens, with the fault that stopped the reading. -/
def run : Nat → Lexer → List Token × Option Fault
  | 0, lexer => (lexer.tokens.toList, none)
  | fuel + 1, lexer =>
      match lexer.next with
      | .error fault => (lexer.tokens.toList.take lexer.settled, some fault)
      | .ok (lexer, true) => (lexer.tokens.toList, none)
      | .ok (lexer, false) =>
          let reached := match lexer.dropStale with
            | .ok fresh => settle lexer.tokens.size fresh
            | .error _ => lexer
          run fuel reached

end Lexer

/-- The tokens of a text.  Characters that no text may hold make it wrong from its start. -/
def tokens (text : List Char) : List Token × Option Fault :=
  if text.all isAllowed then
    let begun := match text with
      | '\ufeff' :: rest => { Lexer.start rest with cursor := (Cursor.start text).step }
      | _ => Lexer.start text
    begun.run (text.length + 2)
  else ([], some .unreadable)

end WorkflowLint.Yaml
