import WorkflowLint.Value.Display

/-!
Contract: values written as JSON texts of ASCII characters.

`compact` writes one line with a blank after commas and colons; `indented` writes one item a line
with two blanks per level.  Characters outside printable ASCII are written by their UTF-16 codes.
Keys that are not texts are written as the text of the same JSON value, and values that JSON does
not have are written as texts that show them.
-/

set_option autoImplicit false

namespace WorkflowLint.Json

def codeEscape (code : Nat) : List Char :=
  '\\' :: 'u' :: Text.hex 4 code

def escapedChar (c : Char) : List Char :=
  let code := c.toNat
  if c == '"' then ['\\', '"']
  else if c == '\\' then ['\\', '\\']
  else if c == '\n' then ['\\', 'n']
  else if c == '\r' then ['\\', 'r']
  else if c == '\t' then ['\\', 't']
  else if code == 0x0C then ['\\', 'f']
  else if code == 0x08 then ['\\', 'b']
  else if 0x20 ≤ code && code < 0x7F then [c]
  else if code < 0x10000 then codeEscape code
  else
    codeEscape (0xD800 + (code - 0x10000) / 0x400) ++ codeEscape (0xDC00 + (code - 0x10000) % 0x400)

def quotedText (text : List Char) : List Char :=
  '"' :: text.flatMap escapedChar ++ ['"']

def scalar : Value → List Char
  | .null => "null".toList
  | .bool true => "true".toList
  | .bool false => "false".toList
  | .int number => Decimal.ofInt number
  | .float number => Decimal.Layout.json.float number
  | .str text => quotedText text.toList
  | value => quotedText value.display

def key : Value → List Char
  | .str text => quotedText text.toList
  | .null => quotedText (scalar .null)
  | .bool flag => quotedText (scalar (.bool flag))
  | .int number => quotedText (scalar (.int number))
  | .float number => quotedText (scalar (.float number))
  | value => quotedText value.display

inductive Obstacle where
  /-- A key is none of the values that JSON has texts for. -/
  | badKey
  | spelling (fault : Value.SpellingFault)
  deriving DecidableEq

def scalarObstacle? (value : Value) : Option Obstacle :=
  if value.isSpellable then none else some (.spelling .integerTooLong)

def keyObstacle? : Value → Option Obstacle
  | .str _ | .null | .bool _ | .float _ => none
  | .int number => scalarObstacle? (.int number)
  | _ => some .badKey

mutual

/-- The first obstacle in the order of writing. -/
def obstacle? : Value → Option Obstacle
  | .list items => itemsObstacle? items
  | .tuple items => itemsObstacle? items
  | .map entries => entriesObstacle? entries
  | value => scalarObstacle? value

def itemsObstacle? : List Value → Option Obstacle
  | [] => none
  | item :: rest => (obstacle? item).or (itemsObstacle? rest)

def entriesObstacle? : List (Value × Value) → Option Obstacle
  | [] => none
  | (name, value) :: rest =>
      ((keyObstacle? name).or (obstacle? value)).or (entriesObstacle? rest)

end

mutual

def compact : Value → List Char
  | .list items => '[' :: compactItems items ++ [']']
  | .tuple items => '[' :: compactItems items ++ [']']
  | .map entries => '{' :: compactEntries entries ++ ['}']
  | value => scalar value

def compactItems : List Value → List Char
  | [] => []
  | [item] => compact item
  | item :: rest => compact item ++ ',' :: ' ' :: compactItems rest

def compactEntries : List (Value × Value) → List Char
  | [] => []
  | [(name, value)] => key name ++ ':' :: ' ' :: compact value
  | (name, value) :: rest =>
      key name ++ ':' :: ' ' :: compact value ++ ',' :: ' ' :: compactEntries rest

end

def newLine (level : Nat) : List Char :=
  '\n' :: List.replicate (2 * level) ' '

mutual

/-- A value whose nested items stand one level deeper than `level`. -/
def indented (level : Nat) : Value → List Char
  | .list [] => ['[', ']']
  | .list items => '[' :: indentedItems (level + 1) items ++ newLine level ++ [']']
  | .tuple [] => ['[', ']']
  | .tuple items => '[' :: indentedItems (level + 1) items ++ newLine level ++ [']']
  | .map [] => ['{', '}']
  | .map entries => '{' :: indentedEntries (level + 1) entries ++ newLine level ++ ['}']
  | value => scalar value

def indentedItems (level : Nat) : List Value → List Char
  | [] => []
  | [item] => newLine level ++ indented level item
  | item :: rest => newLine level ++ indented level item ++ ',' :: indentedItems level rest

def indentedEntries (level : Nat) : List (Value × Value) → List Char
  | [] => []
  | [(name, value)] => newLine level ++ key name ++ ':' :: ' ' :: indented level value
  | (name, value) :: rest =>
      newLine level ++ key name ++ ':' :: ' ' :: indented level value ++
        ',' :: indentedEntries level rest

end

def encode (value : Value) : String :=
  String.ofList (indented 0 value)

end WorkflowLint.Json
