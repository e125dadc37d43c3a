import WorkflowLint.Decimal.Reading
import WorkflowLint.Text.Quoted

/-!
Contract: why a pattern text is no pattern.

Owns: the causes, their wording, and the place in the pattern text where the cause was found.  A
place is shown by its position, and in a text of several lines also by line and column.
-/

set_option autoImplicit false

namespace WorkflowLint.Regex

inductive Cause where
  | loneBackslash
  | badEscape (text : String)
  | incompleteEscape (text : String)
  | octalOutOfRange (text : String)
  | missingBrace
  | missingName (kind : String)
  | unterminatedName (terminator : Char)
  | undefinedCharacter (name : String)
  | invalidReference (group : Nat)
  | openGroup
  | groupOfLookbehind
  | unterminatedSet
  | badRange (low high : String)
  | reversedCounts
  | nothingToRepeat
  | multipleRepeat
  | unexpectedEnd
  | badGroupName (name : String)
  | unknownGroupName (name : String)
  | unknownExtension (text : String)
  | unterminatedComment
  | unterminatedGroup
  | badGroupNumber
  | tooManyBranches
  | misplacedFlags
  | redefinedGroup (name : String) (number earlier : Nat)
  | localeFlag
  | mixedTypeFlags
  | missingFlagEnd
  | unknownFlag
  | missingFlag
  | missingColon
  | typeFlagTurnedOff
  | globalFlagTurnedOn
  | globalFlagTurnedOff
  | flagOnAndOff
  | unbalanced
  | looseLookbehind
  | repeatInTemplate (kind : String)
  /-- Both character set flags are given for the whole pattern. -/
  | incompatibleFlags
  | countTooLarge
  | tooManyDigits (count : Nat)
  /-- A code escape does not fit a machine integer. -/
  | codeTooWide
  deriving DecidableEq

def Cause.message : Cause → String
  | .loneBackslash => "bad escape (end of pattern)"
  | .badEscape text => "bad escape " ++ text
  | .incompleteEscape text => "incomplete escape " ++ text
  | .octalOutOfRange text => "octal escape value " ++ text ++ " outside of range 0-0o377"
  | .missingBrace => "missing \x7b"
  | .missingName kind => "missing " ++ kind
  | .unterminatedName terminator =>
      "missing " ++ String.ofList [terminator] ++ ", unterminated name"
  | .undefinedCharacter name => "undefined character name " ++ Text.quoted name
  | .invalidReference group =>
      "invalid group reference " ++ String.ofList (Decimal.digitsOf group)
  | .openGroup => "cannot refer to an open group"
  | .groupOfLookbehind => "cannot refer to group defined in the same lookbehind subpattern"
  | .unterminatedSet => "unterminated character set"
  | .badRange low high => "bad character range " ++ low ++ "-" ++ high
  | .reversedCounts => "min repeat greater than max repeat"
  | .nothingToRepeat => "nothing to repeat"
  | .multipleRepeat => "multiple repeat"
  | .unexpectedEnd => "unexpected end of pattern"
  | .badGroupName name => "bad character in group name " ++ Text.quoted name
  | .unknownGroupName name => "unknown group name " ++ Text.quoted name
  | .unknownExtension text => "unknown extension ?" ++ text
  | .unterminatedComment => "missing ), unterminated comment"
  | .unterminatedGroup => "missing ), unterminated subpattern"
  | .badGroupNumber => "bad group number"
  | .tooManyBranches => "conditional backref with more than two branches"
  | .misplacedFlags => "global flags not at the start of the expression"
  | .redefinedGroup name number earlier =>
      "redefinition of group name " ++ Text.quoted name ++ " as group " ++
        String.ofList (Decimal.digitsOf number) ++ "; was group " ++
        String.ofList (Decimal.digitsOf earlier)
  | .localeFlag => "bad inline flags: cannot use 'L' flag with a str pattern"
  | .mixedTypeFlags => "bad inline flags: flags 'a', 'u' and 'L' are incompatible"
  | .missingFlagEnd => "missing -, : or )"
  | .unknownFlag => "unknown flag"
  | .missingFlag => "missing flag"
  | .missingColon => "missing :"
  | .typeFlagTurnedOff => "bad inline flags: cannot turn off flags 'a', 'u' and 'L'"
  | .globalFlagTurnedOn => "bad inline flags: cannot turn on global flag"
  | .globalFlagTurnedOff => "bad inline flags: cannot turn off global flag"
  | .flagOnAndOff => "bad inline flags: flag turned on and off"
  | .unbalanced => "unbalanced parenthesis"
  | .looseLookbehind => "look-behind requires fixed-width pattern"
  | .repeatInTemplate kind => "internal: unsupported template operator " ++ kind
  | .incompatibleFlags => "ASCII and UNICODE flags are incompatible"
  | .countTooLarge => "the repetition number is too large"
  | .tooManyDigits count => Decimal.tooManyDigits count
  | .codeTooWide => "Python int too large to convert to C int"

structure Fault where
  cause : Cause
  position : Option Nat
  /-- Line and column, when the pattern text has several lines. -/
  lineColumn : Option (Nat × Nat)
  deriving DecidableEq

namespace Fault

def ofCause (cause : Cause) : Fault := ⟨cause, none, none⟩

def ofPlace (pattern : List Char) (cause : Cause) (position : Nat) : Fault :=
  let before := pattern.take position
  let line := before.count '\n' + 1
  let column := (before.reverse.takeWhile (· != '\n')).length + 1
  ⟨cause, some position, if pattern.contains '\n' then some (line, column) else none⟩

def message (fault : Fault) : String :=
  let shown (number : Nat) : String := String.ofList (Decimal.digitsOf number)
  fault.cause.message ++
    (match fault.position with
      | some position => " at position " ++ shown position
      | none => "") ++
    match fault.lineColumn with
    | some (line, column) => " (line " ++ shown line ++ ", column " ++ shown column ++ ")"
    | none => ""

end Fault

end WorkflowLint.Regex
