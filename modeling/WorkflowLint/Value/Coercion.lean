import WorkflowLint.Decimal.Reading
import WorkflowLint.Text.Utf8
import WorkflowLint.Value.Basic

/-!
Contract: typed readings of values.

Owns: how loosely written truth values, integers, texts and lists are taken, and why a value is not
taken.  Bytes are taken as the text they encode.  Integers may be written as texts with a sign,
underscores between digits and a fraction of zeros.
-/

set_option autoImplicit false

namespace WorkflowLint.Value

inductive Mismatch where
  | boolText
  | boolKind
  | intText
  | intKind
  | intFraction
  | intSize
  | notFinite
  | textKind
  | textBytes
  | listKind
  | recordKind (record : String)
  deriving DecidableEq

namespace Mismatch

def label : Mismatch → String
  | .boolText => "bool_parsing"
  | .boolKind => "bool_type"
  | .intText => "int_parsing"
  | .intKind => "int_type"
  | .intFraction => "int_from_float"
  | .intSize => "int_parsing_size"
  | .notFinite => "finite_number"
  | .textKind => "string_type"
  | .textBytes => "string_unicode"
  | .listKind => "list_type"
  | .recordKind _ => "model_type"

def message : Mismatch → String
  | .boolText => "Input should be a valid boolean, unable to interpret input"
  | .boolKind => "Input should be a valid boolean"
  | .intText => "Input should be a valid integer, unable to parse string as an integer"
  | .intKind => "Input should be a valid integer"
  | .intFraction => "Input should be a valid integer, got a number with a fractional part"
  | .intSize => "Unable to parse input string as an integer, exceeded maximum size"
  | .notFinite => "Input should be a finite number"
  | .textKind => "Input should be a valid string"
  | .textBytes => "Input should be a valid string, unable to parse raw data as a unicode string"
  | .listKind => "Input should be a valid list"
  | .recordKind record => "Input should be a valid dictionary or instance of " ++ record

end Mismatch

def bytesText? (octets : List UInt8) : Option (List Char) :=
  match Text.Utf8.decode octets with
  | .ok text => some text
  | .error _ => none

/-! ## Integers -/

/-- Fits a word of 64 bits with a sign. -/
def fitsWord (number : Int) : Bool :=
  -(Nat.pow 2 63 : Int) ≤ number && number < (Nat.pow 2 63 : Int)

/-- The integer of a double; its size must be below the bounds of such a word. -/
def wholeOf (number : Float) : Except Mismatch Int :=
  if number.isNaN || number.isInf then .error .notFinite
  else
    match (Decimal.Binary.ofFloat number).toInt? with
    | none => .error .intFraction
    | some whole => if whole.natAbs < Nat.pow 2 63 then .ok whole else .error .intSize

def dropZeroFraction (text : List Char) : List Char :=
  match text.dropWhile (· != '.') with
  | _ :: fraction =>
      if !fraction.isEmpty && fraction.all (· == '0') then text.takeWhile (· != '.') else text
  | [] => text

/-- What follows zeros and underscores after a first zero; the last of them stays when no digit
follows. -/
def skipZeros (last : Char) : List Char → Option (List Char)
  | [] => some [last]
  | c :: rest =>
      if c == '0' || c == '_' then skipZeros c rest
      else if c == '.' then some (last :: c :: rest)
      else if c.isDigit then some (c :: rest)
      else none

def dropLeadingZeros : List Char → Option (List Char)
  | [] => none
  | c :: rest =>
      if c == '0' then skipZeros c rest
      else if c.isDigit then some (c :: rest)
      else none

/-- The digits of an unsigned integer, without zeros in front and without underscores. -/
def digitsOf? (text : List Char) : Option (List Char) :=
  ((dropLeadingZeros text).map dropZeroFraction).bind fun digits =>
    (Decimal.withoutSeparators false digits).filter fun plain =>
      !plain.isEmpty && plain.all Char.isDigit

def wholeOfText (text : List Char) : Except Mismatch Int :=
  let (negative, body) := Decimal.splitSign (Text.trimBy Text.isWhiteSpace text)
  match digitsOf? body with
  | none => .error .intText
  | some digits =>
      if Decimal.digitLimit < digits.length then .error .intSize
      else
        let size := Decimal.digitsValue digits
        .ok (if negative then -(size : Int) else size)

def toInt : Value → Except Mismatch Int
  | .int number => .ok number
  | .bool flag => .ok (if flag then 1 else 0)
  | .float number => wholeOf number
  | .str text => wholeOfText text.toList
  | .bytes octets =>
      match bytesText? octets with
      | some text => wholeOfText text
      | none => .error .intText
  | _ => .error .intKind

/-! ## Truth values -/

def truthOfText (text : List Char) : Except Mismatch Bool :=
  let word := String.ofList (text.map Char.toLower)
  if ["0", "off", "f", "false", "n", "no"].contains word then .ok false
  else if ["1", "on", "t", "true", "y", "yes"].contains word then .ok true
  else .error .boolText

def truthOfInt (number : Int) : Except Mismatch Bool :=
  if number == 0 then .ok false
  else if number == 1 then .ok true
  else .error .boolText

def toBool : Value → Except Mismatch Bool
  | .bool flag => .ok flag
  | .str text => truthOfText text.toList
  | .bytes octets =>
      match bytesText? octets with
      | some text => truthOfText text
      | none => .error .boolText
  | .int number => if fitsWord number then truthOfInt number else .error .boolKind
  | .float number =>
      match wholeOf number with
      | .ok whole => truthOfInt whole
      | .error _ => .error .boolKind
  | _ => .error .boolKind

/-! ## Texts and lists -/

def toText : Value → Except Mismatch String
  | .str text => .ok text
  | .bytes octets =>
      match bytesText? octets with
      | some text => .ok (String.ofList text)
      | none => .error .textBytes
  | _ => .error .textKind

def toItems : Value → Except Mismatch (List Value)
  | .list items => .ok items
  | .tuple items => .ok items
  | .set items => .ok items
  | _ => .error .listKind

end WorkflowLint.Value
