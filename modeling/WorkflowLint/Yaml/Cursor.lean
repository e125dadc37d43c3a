import WorkflowLint.Decimal.Shortest
import WorkflowLint.Decimal.Reading
import WorkflowLint.Text.Quoted
import WorkflowLint.Value.Declined

/-!
Contract: a place in a YAML text.

Owns: the characters left with the line and column reached, the character classes of the scanner,
and the ways to move on.  Past the end of the text the cursor shows the null character, which no
text holds.
-/

set_option autoImplicit false

namespace WorkflowLint.Yaml

/-- Why a text gives no value.  `unreadable` covers every fault of form; the others arise where codes
and numbers are read, and while a well-formed scalar is turned into a value. -/
inductive Fault where
  /-- The text is not YAML, or uses a tag, a key or an alias that cannot be resolved. -/
  | unreadable
  | codeOutOfRange
  | codeTooWide
  /-- A text tagged as an integer is none in the base it starts. -/
  | notInteger (base : Nat) (text : String)
  | notNumber (text : String)
  | notTruth (text : String)
  | tooManyDigits (count : Nat)
  /-- A text tagged as a number has no characters to look at. -/
  | emptyNumber
  | notMoment
  | momentOutOfRange (reason : String)
  /-- The place of a sixtieth is past the range of doubles. -/
  | sixtiethTooWide
  | momentNotText
  | declined (content : Declined)
  deriving DecidableEq

/-- The wording of a fault, for the faults that have one.  Faults of form share one. -/
def Fault.message : Fault → String
  | .unreadable => "the text is not YAML"
  | .codeOutOfRange => "chr() arg not in range(0x110000)"
  | .codeTooWide => "Python int too large to convert to C int"
  | .notInteger base text =>
      "invalid literal for int() with base " ++ String.ofList (Decimal.digitsOf base) ++ ": " ++
        String.ofList ((Text.quotedChars text.toList).take 200)
  | .notNumber text => "could not convert string to float: " ++ Text.quoted text
  | .notTruth text => text
  | .tooManyDigits count => Decimal.tooManyDigits count
  | .momentOutOfRange reason => reason
  | .sixtiethTooWide => "int too large to convert to float"
  | .emptyNumber | .notMoment | .momentNotText | .declined _ => ""

structure Cursor where
  rest : List Char
  index : Nat
  line : Nat
  column : Nat

/-- What the cursor shows past the end. -/
def endMark : Char := '\x00'

def isBreak (c : Char) : Bool :=
  c == '\r' || c == '\n' || c == '\x85' || c == '\u2028' || c == '\u2029'

def isBreakOrEnd (c : Char) : Bool :=
  c == endMark || isBreak c

def isBlankOrEnd (c : Char) : Bool :=
  c == ' ' || c == '\t' || isBreakOrEnd c

def isSpaceOrEnd (c : Char) : Bool :=
  c == ' ' || isBreakOrEnd c

def isNameChar (c : Char) : Bool :=
  c.isAlphanum || c == '-' || c == '_'

def isAllowed (c : Char) : Bool :=
  let code := c.toNat
  code == 9 || code == 10 || code == 13 || (0x20 ≤ code && code ≤ 0x7E) || code == 0x85 ||
    (0xA0 ≤ code && code ≤ 0xFFFD) || 0x10000 ≤ code

namespace Cursor

def start (text : List Char) : Cursor := ⟨text, 0, 0, 0⟩

def peek (cursor : Cursor) : Char := cursor.rest.headD endMark

def peekAt (cursor : Cursor) (offset : Nat) : Char := (cursor.rest.drop offset).headD endMark

/-- Move over one character.  A carriage return before a line feed does not end the line by itself,
and a byte order mark takes no column. -/
def step (cursor : Cursor) : Cursor :=
  match cursor.rest with
  | [] => cursor
  | c :: rest =>
      let endsLine := isBreak c && !(c == '\r' && rest.headD endMark == '\n')
      if endsLine then ⟨rest, cursor.index + 1, cursor.line + 1, 0⟩
      else if c == '\ufeff' then ⟨rest, cursor.index + 1, cursor.line, cursor.column⟩
      else ⟨rest, cursor.index + 1, cursor.line, cursor.column + 1⟩

def advance (cursor : Cursor) : Nat → Cursor
  | 0 => cursor
  | count + 1 => cursor.step.advance count

/-- The characters from the cursor on that belong to a class, and the cursor behind them. -/
def span (cursor : Cursor) (among : Char → Bool) : List Char × Cursor :=
  let taken := cursor.rest.takeWhile among
  (taken, cursor.advance taken.length)

def skip (cursor : Cursor) (among : Char → Bool) : Cursor :=
  (cursor.span among).2

def skipSpaces (cursor : Cursor) : Cursor :=
  cursor.skip (· == ' ')

def skipComment (cursor : Cursor) : Cursor :=
  if cursor.peek == '#' then cursor.skip (!isBreakOrEnd ·) else cursor

/-- Move over a line end: the line end in its normal form, or nothing when there is none. -/
def lineBreak (cursor : Cursor) : List Char × Cursor :=
  match cursor.rest with
  | '\r' :: '\n' :: _ => (['\n'], cursor.advance 2)
  | c :: _ =>
      if c == '\r' || c == '\n' || c == '\x85' then (['\n'], cursor.step)
      else if c == '\u2028' || c == '\u2029' then ([c], cursor.step)
      else ([], cursor)
  | [] => ([], cursor)

/-- Three equal marks stand here, with a blank or an end after them. -/
def atMarks (cursor : Cursor) (mark : Char) : Bool :=
  cursor.rest.take 3 == [mark, mark, mark] && isBlankOrEnd (cursor.peekAt 3)

def atDocumentMarker (cursor : Cursor) : Bool :=
  cursor.atMarks '-' || cursor.atMarks '.'

end Cursor

end WorkflowLint.Yaml
