import WorkflowLint.Decimal.Reading
import WorkflowLint.Yaml.Token

/-!
Contract: the texts of scalars.

Owns: the three forms of scalars and how their lines are folded.  A plain scalar ends before a
comment, a mapping mark or, inside brackets, a bracket mark.  A quoted scalar ends at its quote.  A
block scalar ends at the first line that is indented less.
-/

set_option autoImplicit false

namespace WorkflowLint.Yaml

def isBracketMark (c : Char) : Bool :=
  c == ',' || c == '[' || c == ']' || c == '{' || c == '}'

/-! ## Plain scalars -/

/-- The characters of a plain scalar up to the next blank or mark. -/
def plainWord (inFlow : Bool) : List Char → List Char
  | [] => []
  | c :: rest =>
      let next := rest.headD endMark
      let ends := isBlankOrEnd c ||
        (c == ':' && (isBlankOrEnd next || (inFlow && isBracketMark next))) ||
        (inFlow && (isBracketMark c || c == '?'))
      if ends then [] else c :: plainWord inFlow rest

/-- Line ends after the first one, with the spaces between them dropped; `none` for the line ends
when a document marker is met. -/
def plainBreaks : Nat → List Char → Cursor → Option (List Char) × Cursor
  | 0, breaks, cursor => (some breaks, cursor)
  | fuel + 1, breaks, cursor =>
      if cursor.peek == ' ' then plainBreaks fuel breaks cursor.step
      else if isBreak cursor.peek then
        let (lineEnd, after) := cursor.lineBreak
        if after.atDocumentMarker then (none, after)
        else plainBreaks fuel (breaks ++ lineEnd) after
      else (some breaks, cursor)

/-- What stands for a stretch of line ends: one line end becomes a space, several lose the first. -/
def foldedBreaks (first breaks : List Char) : List Char :=
  if first != ['\n'] then first ++ breaks
  else if breaks.isEmpty then [' ']
  else breaks

/-- The blanks behind a word of a plain scalar as they count inside it. -/
structure Gap where
  text : List Char
  cursor : Cursor
  brokeLine : Bool

def plainGap (cursor : Cursor) : Gap :=
  let (spaces, after) := cursor.span (· == ' ')
  if isBreak after.peek then
    let (lineEnd, after) := after.lineBreak
    if after.atDocumentMarker then ⟨[], after, true⟩
    else
      match plainBreaks (after.rest.length + 1) [] after with
      | (none, after) => ⟨[], after, true⟩
      | (some breaks, after) => ⟨foldedBreaks lineEnd breaks, after, true⟩
  else ⟨spaces, after, false⟩

/-- The rest of a plain scalar: `text` is what is read, `gap` the blanks behind it. -/
def plainFrom (inFlow : Bool) (indent : Int) : Nat → List Char → Gap → Gap
  | 0, text, gap => { gap with text := text }
  | fuel + 1, text, gap =>
      if gap.cursor.peek == '#' then { gap with text := text }
      else
        let word := plainWord inFlow gap.cursor.rest
        if word.isEmpty then { gap with text := text }
        else
          let text := text ++ gap.text ++ word
          let next := plainGap (gap.cursor.advance word.length)
          if next.text.isEmpty || (!inFlow && (next.cursor.column : Int) < indent) then
            { next with text := text }
          else plainFrom inFlow indent fuel text next

/-- A plain scalar at the cursor, where `indent` is the indentation of the block around it. -/
def plainScalar (inFlow : Bool) (indent : Int) (cursor : Cursor) : Gap :=
  plainFrom inFlow (indent + 1) (cursor.rest.length + 1) [] ⟨[], cursor, false⟩

/-! ## Quoted scalars -/

/-- Line ends and blanks inside quotes, up to the next other character. -/
def quotedBreaks : Nat → List Char → Cursor → Except Fault (List Char × Cursor)
  | 0, breaks, cursor => .ok (breaks, cursor)
  | fuel + 1, breaks, cursor =>
      if cursor.atDocumentMarker then .error .unreadable
      else
        let cursor := cursor.skip fun c => c == ' ' || c == '\t'
        if isBreak cursor.peek then
          let (lineEnd, after) := cursor.lineBreak
          quotedBreaks fuel (breaks ++ lineEnd) after
        else .ok (breaks, cursor)

def quotedGap (cursor : Cursor) : Except Fault (List Char × Cursor) :=
  let (blanks, after) := cursor.span fun c => c == ' ' || c == '\t'
  if after.peek == endMark then .error .unreadable
  else if isBreak after.peek then do
    let (lineEnd, after) := after.lineBreak
    let (breaks, after) ← quotedBreaks (after.rest.length + 1) [] after
    return (foldedBreaks lineEnd breaks, after)
  else .ok (blanks, after)

def escapeChar? (c : Char) : Option Char :=
  match c with
  | '0' => some '\x00'
  | 'a' => some '\x07'
  | 'b' => some '\x08'
  | 't' => some '\t'
  | '\t' => some '\t'
  | 'n' => some '\n'
  | 'v' => some '\x0b'
  | 'f' => some '\x0c'
  | 'r' => some '\r'
  | 'e' => some '\x1b'
  | ' ' => some ' '
  | '"' => some '"'
  | '\\' => some '\\'
  | '/' => some '/'
  | 'N' => some '\x85'
  | '_' => some '\xa0'
  | 'L' => some '\u2028'
  | 'P' => some '\u2029'
  | _ => none

def escapeWidth? (c : Char) : Option Nat :=
  match c with
  | 'x' => some 2
  | 'u' => some 4
  | 'U' => some 8
  | _ => none

def escapedCode (digits : List Char) : Except Fault Char :=
  match digits.mapM (Decimal.digitOfBase? 16) with
  | none => .error .unreadable
  | some values =>
      let code := values.foldl (fun code digit => code * 16 + digit) 0
      if 0x7FFFFFFF < code then .error .codeTooWide
      else if 0x10FFFF < code then .error .codeOutOfRange
      else if isHalfPair code then .error (.declined .halfPair)
      else .ok (Char.ofNat code)

/-- An escape, with the cursor on the character behind the backslash. -/
def escaped (cursor : Cursor) : Except Fault (List Char × Cursor) :=
  let mark := cursor.peek
  match escapeChar? mark, escapeWidth? mark with
  | some char, _ => .ok ([char], cursor.step)
  | none, some width =>
      let digits := cursor.step.rest.take width
      if digits.length < width then .error .unreadable
      else do
        let char ← escapedCode digits
        return ([char], cursor.step.advance width)
  | none, none =>
      if isBreak mark then
        let (_, after) := cursor.lineBreak
        quotedBreaks (after.rest.length + 1) [] after
      else .error .unreadable

def quotedFrom (quote : Char) : Nat → List Char → Cursor → Except Fault (List Char × Cursor)
  | 0, _, _ => .error .unreadable
  | fuel + 1, text, cursor =>
      let c := cursor.peek
      if c == quote then
        if quote == '\'' && cursor.peekAt 1 == '\'' then
          quotedFrom quote fuel (text ++ ['\'']) (cursor.advance 2)
        else .ok (text, cursor.step)
      else if c == '\\' && quote == '"' then do
        let (added, after) ← escaped cursor.step
        quotedFrom quote fuel (text ++ added) after
      else if isBlankOrEnd c then do
        let (added, after) ← quotedGap cursor
        quotedFrom quote fuel (text ++ added) after
      else
        let (added, after) := cursor.span fun d =>
          !(isBlankOrEnd d || d == '\'' || d == '"' || d == '\\')
        if added.isEmpty then quotedFrom quote fuel (text ++ [c]) cursor.step
        else quotedFrom quote fuel (text ++ added) after

def quotedScalar (cursor : Cursor) : Except Fault (List Char × Cursor) :=
  quotedFrom cursor.peek (cursor.rest.length + 1) [] cursor.step

/-! ## Block scalars -/

/-- What becomes of the line ends at the end of a block scalar. -/
inductive Chomping where
  | strip
  | clip
  | keep
  deriving DecidableEq

def chompingOf (mark : Char) : Chomping :=
  if mark == '+' then .keep else .strip

def indentDigit? (c : Char) : Option Nat :=
  if c.isDigit then some (c.toNat - 48) else none

/-- The header of a block scalar behind its mark: chomping and indentation, in either order. -/
def blockHeader (cursor : Cursor) : Except Fault ((Chomping × Option Nat) × Cursor) :=
  let isChomp (c : Char) : Bool := c == '+' || c == '-'
  let header :=
    if isChomp cursor.peek then
      let after := cursor.step
      match indentDigit? after.peek with
      | some digit => ((chompingOf cursor.peek, some digit), after.step)
      | none => ((chompingOf cursor.peek, none), after)
    else
      match indentDigit? cursor.peek with
      | some digit =>
          let after := cursor.step
          if isChomp after.peek then ((chompingOf after.peek, some digit), after.step)
          else ((.clip, some digit), after)
      | none => ((.clip, none), cursor)
  if header.1.2 == some 0 then .error .unreadable
  else if isSpaceOrEnd header.2.peek then .ok header
  else .error .unreadable

/-- Blank lines before the first line of a block scalar: their line ends and the deepest column. -/
def leadingLines : Nat → List Char → Nat → Cursor → (List Char × Nat) × Cursor
  | 0, breaks, deepest, cursor => ((breaks, deepest), cursor)
  | fuel + 1, breaks, deepest, cursor =>
      if cursor.peek == ' ' then
        let after := cursor.step
        leadingLines fuel breaks (max deepest after.column) after
      else if isBreak cursor.peek then
        let (lineEnd, after) := cursor.lineBreak
        leadingLines fuel (breaks ++ lineEnd) deepest after
      else ((breaks, deepest), cursor)

def skipIndent (indent : Nat) (cursor : Cursor) : Cursor :=
  let spaces := (cursor.rest.takeWhile (· == ' ')).length
  cursor.advance (min spaces (indent - cursor.column))

/-- Blank lines inside a block scalar: their line ends. -/
def innerLines (indent : Nat) : Nat → List Char → Cursor → List Char × Cursor
  | 0, breaks, cursor => (breaks, cursor)
  | fuel + 1, breaks, cursor =>
      let cursor := skipIndent indent cursor
      if isBreak cursor.peek then
        let (lineEnd, after) := cursor.lineBreak
        innerLines indent fuel (breaks ++ lineEnd) after
      else (breaks, cursor)

def atBlockLine (indent : Nat) (cursor : Cursor) : Bool :=
  cursor.column == indent && cursor.peek != endMark

/-- The rest of a block scalar: the text, the last line end, the blank lines behind it. -/
def blockFrom (folded : Bool) (indent : Nat) :
    Nat → List Char → List Char → Cursor → (List Char × List Char × List Char) × Cursor
  | 0, text, breaks, cursor => ((text, [], breaks), cursor)
  | fuel + 1, text, breaks, cursor =>
      let startsPlain := !(cursor.peek == ' ' || cursor.peek == '\t')
      let (line, after) := cursor.span (!isBreakOrEnd ·)
      let text := text ++ breaks ++ line
      let (lineEnd, after) := after.lineBreak
      let (breaks, after) := innerLines indent (after.rest.length + 1) [] after
      if atBlockLine indent after then
        let folds := folded && lineEnd == ['\n'] && startsPlain &&
          !(after.peek == ' ' || after.peek == '\t')
        let joint := if folds then (if breaks.isEmpty then [' '] else []) else lineEnd
        blockFrom folded indent fuel (text ++ joint) breaks after
      else ((text, lineEnd, breaks), after)

/-- A block scalar, with the cursor on its mark, where `indent` is the indentation of the block
around it. -/
def blockScalar (indent : Int) (cursor : Cursor) : Except Fault (List Char × Cursor) := do
  let folded := cursor.peek == '>'
  let ((chomping, increment), cursor) ← blockHeader cursor.step
  let cursor ← readLineRest cursor
  let least := max (indent + 1) 1
  let ((breaks, own), cursor) :=
    match increment with
    | none =>
        let ((breaks, deepest), after) := leadingLines (cursor.rest.length + 1) [] 0 cursor
        ((breaks, max least.toNat deepest), after)
    | some digit =>
        let own := least.toNat + digit - 1
        let (breaks, after) := innerLines own (cursor.rest.length + 1) [] cursor
        ((breaks, own), after)
  let ((text, lineEnd, breaks), cursor) :=
    if atBlockLine own cursor then blockFrom folded own (cursor.rest.length + 1) [] breaks cursor
    else (([], [], breaks), cursor)
  let tail := match chomping with
    | .strip => []
    | .clip => lineEnd
    | .keep => lineEnd ++ breaks
  return (text ++ tail, cursor)

end WorkflowLint.Yaml
