import WorkflowLint.Regex.Source

/-!
Contract: escapes in pattern texts.

Owns: the meaning of a backslash with the characters behind it, inside and outside character sets.
-/

set_option autoImplicit false

namespace WorkflowLint.Regex

namespace Step

def controlCode? : Char → Option Nat
  | 'a' => some 7
  | 'b' => some 8
  | 'f' => some 12
  | 'n' => some 10
  | 'r' => some 13
  | 't' => some 9
  | 'v' => some 11
  | '\\' => some 92
  | _ => none

def category? : Char → Option SetItem
  | 'd' => some (.category .digit false)
  | 'D' => some (.category .digit true)
  | 's' => some (.category .space false)
  | 'S' => some (.category .space true)
  | 'w' => some (.category .word false)
  | 'W' => some (.category .word true)
  | _ => none

def isOctal (c : Char) : Bool := '0' ≤ c && c ≤ '7'

def isHexadecimal (c : Char) : Bool := (Decimal.digitOfBase? 16 c).isSome

def valueIn (base : Nat) (digits : List Char) : Nat :=
  digits.foldl (fun value c => value * base + (Decimal.digitOfBase? base c).getD 0) 0

def spelled (mark : Char) (more : List Char) : String :=
  String.ofList ('\\' :: mark :: more)

def fixedCode (mark : Char) (width : Nat) : Step Nat := do
  let digits ← takeWhile isHexadecimal width
  if digits.length < width then
    fail (.incompleteEscape (spelled mark digits)) (digits.length + 2)
  else
    let code := valueIn 16 digits
    if 0x7FFFFFFF < code then throw (.ofCause .codeTooWide)
    else if 0x10FFFF < code then fail (.badEscape (spelled mark digits)) (digits.length + 2)
    else return code

/-- A character given by its name; no names are known. -/
def namedCode : Step Nat := do
  if ← accept '{' then
    let name ← name '}' "character name"
    fail (.undefinedCharacter (String.ofList name)) (name.length + 4)
  else fail .missingBrace 0

def spelledCode? (mark : Char) : Step (Option Nat) := do
  match mark with
  | 'x' => return some (← fixedCode mark 2)
  | 'u' => return some (← fixedCode mark 4)
  | 'U' => return some (← fixedCode mark 8)
  | 'N' => return some (← namedCode)
  | _ => return none

def plainCode (mark : Char) : Step Nat := do
  if mark.isAlphanum then fail (.badEscape (spelled mark [])) 2 else return mark.toNat

/-- An octal code of at most one byte. -/
def octalCode (digits : List Char) : Step Nat := do
  let code := valueIn 8 digits
  if 255 < code then
    fail (.octalOutOfRange (String.ofList ('\\' :: digits))) (digits.length + 1)
  else return code

def setEscape (mark : Char) : Step SetItem := do
  match controlCode? mark, category? mark with
  | some code, _ => return .code code
  | none, some item => return item
  | none, none =>
      match ← spelledCode? mark with
      | some code => return .code code
      | none =>
          if isOctal mark then
            let digits ← takeWhile isOctal 2
            return .code (← octalCode (mark :: digits))
          else return .code (← plainCode mark)

def isClosed (source : Source) (group : Nat) : Bool :=
  match source.groups[group]? with
  | some (some _) => true
  | _ => false

/-- Inside a look behind only groups closed before it can be referred to. -/
def checkBehind (group : Nat) : Step Unit := do
  let source ← get
  match source.behind with
  | none => return ()
  | some limit =>
      if !isClosed source group then fail .openGroup 0
      else if limit ≤ group then fail .groupOfLookbehind 0
      else return ()

def reference (flags : Flags) (group : Nat) (back : Nat) : Step Piece := do
  let source ← get
  match source.groups[group]? with
  | some (some width) =>
      checkBehind group
      return .reference group width flags.mode
  | _ => fail .openGroup back

/-- An escape that starts with a digit other than zero: three octal digits are a code, all else
refers to a group. -/
def numberedEscape (flags : Flags) (set : List SetItem → Piece) (first : Char) : Step Piece := do
  let second ← takeWhile Char.isDigit 1
  let octal := isOctal first && !second.isEmpty && second.all isOctal
  let third ← if octal then takeWhile isOctal 1 else pure []
  if third.isEmpty then
    let group := Decimal.digitsValue (first :: second)
    if group < (← get).groups.size then reference flags group (second.length + 2)
    else fail (.invalidReference group) (second.length + 1)
  else return set [.code (← octalCode (first :: second ++ third))]

def anchor? (flags : Flags) : Char → Option Anchor
  | 'A' => some .textStart
  | 'b' => some (.boundary flags.ascii)
  | 'B' => some (.noBoundary flags.ascii)
  | 'Z' => some .textEnd
  | _ => none

def pieceEscape (flags : Flags) (mark : Char) : Step Piece := do
  let set (items : List SetItem) : Piece := .char ⟨items, false, flags.mode, flags.ascii⟩
  match anchor? flags mark, category? mark, controlCode? mark with
  | some test, _, _ => return .anchor test
  | none, some item, _ => return set [item]
  | none, none, some code => return set [.code code]
  | none, none, none =>
      match ← spelledCode? mark with
      | some code => return set [.code code]
      | none =>
          if mark == '0' then
            let digits ← takeWhile isOctal 2
            return set [.code (valueIn 8 digits)]
          else if mark.isDigit then numberedEscape flags set mark
          else return set [.code (← plainCode mark)]

end Step

end WorkflowLint.Regex
