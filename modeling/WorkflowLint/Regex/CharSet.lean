import WorkflowLint.Text.Blank
import WorkflowLint.Text.Case
import WorkflowLint.Text.Digit
import WorkflowLint.Text.Word

/-!
Contract: tests of a single character.

Owns: character sets of codes, spans and categories, with the three ways to compare letters: as they
are, without regard to the case of ASCII letters, and without regard to case.
-/

set_option autoImplicit false

namespace WorkflowLint.Regex

inductive CaseMode where
  | exact
  | ascii
  | full
  deriving DecidableEq

inductive Category where
  | digit
  | space
  | word
  deriving DecidableEq

inductive SetItem where
  | code (point : Nat)
  | span (low high : Nat)
  | category (kind : Category) (negated : Bool)
  deriving DecidableEq

structure CharSet where
  items : List SetItem
  negated : Bool
  mode : CaseMode
  /-- Categories hold ASCII characters only. -/
  asciiCategories : Bool
  deriving DecidableEq

def Category.holds (asciiOnly : Bool) (kind : Category) (c : Char) : Bool :=
  match kind, asciiOnly with
  | .digit, true => c.isDigit
  | .digit, false => Text.isDecimalDigit c
  | .space, true => c == ' ' || ('\t' ≤ c && c ≤ '\r')
  | .space, false => Text.isBlank c
  | .word, true => Text.isAsciiWord c
  | .word, false => Text.isWord c

def asciiFold (code : Nat) : Nat :=
  if 65 ≤ code && code ≤ 90 then code + 32 else code

def CaseMode.fold (mode : CaseMode) (code : Nat) : Nat :=
  match mode with
  | .exact => code
  | .ascii => asciiFold code
  | .full => Text.foldCode code

/-- The codes that are compared as a folded code is. -/
def CaseMode.variants (mode : CaseMode) (folded : Nat) : List Nat :=
  match mode with
  | .exact => [folded]
  | .ascii => if 97 ≤ folded && folded ≤ 122 then [folded, folded - 32] else [folded]
  | .full => (folded :: Text.foldPeers folded).flatMap Text.foldVariants

def CaseMode.same (mode : CaseMode) (left right : Nat) : Bool :=
  let leftFold := mode.fold left
  let rightFold := mode.fold right
  leftFold == rightFold || (mode == .full && (Text.foldPeers leftFold).contains rightFold)

/-- A code admits a character.  Beside other members, a code past sixteen bits is not folded while the
character is, so there a capital letter admits nothing. -/
def CaseMode.admits (mode : CaseMode) (alone : Bool) (point : Nat) (c : Char) : Bool :=
  if alone || mode != .full || point ≤ 0xFFFF then mode.same point c.toNat
  else point == mode.fold c.toNat

/-- The member, alone in its set or not, admits a character. -/
def SetItem.admits (mode : CaseMode) (alone asciiCategories : Bool) (c : Char) : SetItem → Bool
  | .code point => mode.admits alone point c
  | .span low high =>
      (mode.variants (mode.fold c.toNat)).any fun code => low ≤ code && code ≤ high
  | .category kind negated => kind.holds asciiCategories c != negated

def CharSet.admits (set : CharSet) (c : Char) : Bool :=
  let alone := set.items.length == 1
  (set.items.any fun item => item.admits set.mode alone set.asciiCategories c) != set.negated

end WorkflowLint.Regex
