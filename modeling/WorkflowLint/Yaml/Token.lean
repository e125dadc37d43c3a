import WorkflowLint.Text.Utf8
import WorkflowLint.Decimal.Reading
import WorkflowLint.Yaml.Cursor

/-!
Contract: the tokens of a YAML text.

Owns: the token type and the readers of tokens that are made of names: anchors, aliases, tags and
directives.
-/

set_option autoImplicit false

namespace WorkflowLint.Yaml

/-- A tag as written: a handle, when there is one, and the rest. -/
structure TagText where
  handle : Option String
  suffix : String

inductive Directive where
  | version (major minor : Nat)
  | handle (name expansion : String)
  | other

/-- A token.  Block collections are opened and closed by tokens that stand for indentation. -/
inductive Token where
  | streamEnd
  | directive (content : Directive)
  | documentStart
  | documentEnd
  | blockSequenceStart
  | blockMappingStart
  | blockEnd
  | flowSequenceStart
  | flowSequenceEnd
  | flowMappingStart
  | flowMappingEnd
  | blockEntry
  | flowEntry
  | key
  | value
  | alias (name : String)
  | anchor (name : String)
  | tag (content : TagText)
  | scalar (text : String) (plain : Bool)

def readName (cursor : Cursor) : Except Fault (String × Cursor) :=
  let (name, after) := cursor.span isNameChar
  if name.isEmpty then .error .unreadable else .ok (String.ofList name, after)

def endsAnchor (c : Char) : Bool :=
  isBlankOrEnd c || "?:,]\x7d%@`".toList.contains c

def readAnchor (cursor : Cursor) : Except Fault (String × Cursor) := do
  let (name, after) ← readName cursor.step
  if endsAnchor after.peek then return (name, after) else throw .unreadable

def isTagChar (c : Char) : Bool :=
  c.isAlphanum || "-;/?:@&=+$,_.!~*'()[]".toList.contains c

def escapedBytes : Nat → List UInt8 → Cursor → Except Fault (List UInt8 × Cursor)
  | 0, bytes, cursor => .ok (bytes, cursor)
  | fuel + 1, bytes, cursor =>
      if cursor.peek == '%' then
        match Decimal.digitOfBase? 16 (cursor.peekAt 1), Decimal.digitOfBase? 16 (cursor.peekAt 2) with
        | some high, some low =>
            escapedBytes fuel (bytes ++ [UInt8.ofNat (high * 16 + low)]) (cursor.advance 3)
        | _, _ => .error .unreadable
      else .ok (bytes, cursor)

def tagChars : Nat → List Char → Cursor → Except Fault (List Char × Cursor)
  | 0, text, cursor => .ok (text, cursor)
  | fuel + 1, text, cursor =>
      if cursor.peek == '%' then do
        let (bytes, after) ← escapedBytes (cursor.rest.length + 1) [] cursor
        match Text.Utf8.decode bytes with
        | .ok chars => tagChars fuel (text ++ chars) after
        | .error _ => throw .unreadable
      else
        let (chars, after) := cursor.span isTagChar
        if chars.isEmpty then .ok (text, cursor) else tagChars fuel (text ++ chars) after

def readTagText (cursor : Cursor) : Except Fault (String × Cursor) := do
  let (text, after) ← tagChars (cursor.rest.length + 1) [] cursor
  if after.index == cursor.index then throw .unreadable
  else return (String.ofList text, after)

/-- A tag handle: a mark alone, or two marks around a name that may be empty. -/
def readHandle (cursor : Cursor) : Except Fault (String × Cursor) :=
  if cursor.peek != '!' then .error .unreadable
  else if cursor.peekAt 1 == ' ' then .ok ("!", cursor.step)
  else
    let (name, after) := cursor.step.span isNameChar
    if after.peek == '!' then .ok (String.ofList ('!' :: name ++ ['!']), after.step)
    else .error .unreadable

def readTag (cursor : Cursor) : Except Fault (TagText × Cursor) := do
  let next := cursor.peekAt 1
  let (tag, after) ←
    if next == '<' then do
      let (suffix, after) ← readTagText (cursor.advance 2)
      if after.peek == '>' then pure (⟨none, suffix⟩, after.step) else throw .unreadable
    else if isBlankOrEnd next then pure (⟨none, "!"⟩, cursor.step)
    else do
      let word := cursor.step.rest.takeWhile (!isSpaceOrEnd ·)
      let (handle, after) ←
        if word.contains '!' then readHandle cursor else pure ("!", cursor.step)
      let (suffix, after) ← readTagText after
      pure (⟨some handle, suffix⟩, after)
  if isSpaceOrEnd after.peek then return (tag, after) else throw .unreadable

def readVersionPart (cursor : Cursor) : Except Fault (Nat × Cursor) :=
  let (digits, after) := cursor.span Char.isDigit
  if digits.isEmpty then .error .unreadable
  else if Decimal.digitLimit < digits.length then .error (.tooManyDigits digits.length)
  else .ok (Decimal.digitsValue digits, after)

def readDirectiveBody (name : String) (cursor : Cursor) : Except Fault (Directive × Cursor) :=
  match name with
  | "YAML" => do
      let (major, after) ← readVersionPart cursor.skipSpaces
      if after.peek != '.' then throw .unreadable
      let (minor, after) ← readVersionPart after.step
      if isSpaceOrEnd after.peek then return (.version major minor, after) else throw .unreadable
  | "TAG" => do
      let (handle, after) ← readHandle cursor.skipSpaces
      if after.peek != ' ' then throw .unreadable
      let (expansion, after) ← readTagText after.skipSpaces
      if isSpaceOrEnd after.peek then return (.handle handle expansion, after)
      else throw .unreadable
  | _ => .ok (.other, cursor.skip (!isBreakOrEnd ·))

/-- The rest of a line that holds nothing more: spaces and a comment. -/
def readLineRest (cursor : Cursor) : Except Fault Cursor :=
  let cursor := cursor.skipSpaces.skipComment
  if isBreakOrEnd cursor.peek then .ok cursor.lineBreak.2 else .error .unreadable

def readDirective (cursor : Cursor) : Except Fault (Directive × Cursor) := do
  let (name, after) ← readName cursor.step
  if isSpaceOrEnd after.peek then
    let (directive, after) ← readDirectiveBody name after
    return (directive, ← readLineRest after)
  else throw .unreadable

end WorkflowLint.Yaml
