import WorkflowLint.Decimal.Shortest
import WorkflowLint.Text.Blank
import WorkflowLint.Text.Digit

/-!
Contract: numbers read from decimal text.

A decimal has an optional sign, digits with an optional point, and an optional exponent.  Digits of
every script count, single underscores may stand between digits, and `inf`, `infinity` and `nan` are
read in any case.  Integers are read in a base from 2 to 16 with the same underscores.
-/

set_option autoImplicit false

namespace WorkflowLint.Decimal

/-- Digit of any script as its ASCII digit; other characters stay. -/
def asciiDigit (c : Char) : Char :=
  match Text.digitValue? c with
  | some value => Char.ofNat (48 + value)
  | none => c

/-- Remove underscores that stand between two digits; `none` when one stands elsewhere. -/
def withoutSeparators : Bool → List Char → Option (List Char)
  | _, [] => some []
  | afterDigit, '_' :: rest =>
      match rest with
      | next :: _ =>
          if afterDigit && next.isDigit then withoutSeparators false rest else none
      | [] => none
  | _, c :: rest => (withoutSeparators c.isDigit rest).map (c :: ·)

def digitsValue (digits : List Char) : Nat :=
  digits.foldl (fun value c => value * 10 + (c.toNat - 48)) 0

/-- A leading sign, and what follows it. -/
def splitSign : List Char → Bool × List Char
  | '-' :: rest => (true, rest)
  | '+' :: rest => (false, rest)
  | text => (false, text)

/-- An exponent mark with its digits, or nothing; `none` when anything else follows. -/
def readExponent? : List Char → Option Int
  | [] => some 0
  | mark :: rest =>
      if mark == 'e' || mark == 'E' then
        let (negative, digits) := splitSign rest
        if digits.isEmpty || !digits.all Char.isDigit then none
        else
          let value : Int := digitsValue digits
          some (if negative then -value else value)
      else none

/-- An unsigned ASCII decimal as a mantissa and a power of ten. -/
def readUnsigned? (text : List Char) : Option (Nat × Int) :=
  let whole := text.takeWhile Char.isDigit
  let rest := text.dropWhile Char.isDigit
  let (fraction, rest) :=
    match rest with
    | '.' :: after => (after.takeWhile Char.isDigit, after.dropWhile Char.isDigit)
    | _ => ([], rest)
  if whole.isEmpty && fraction.isEmpty then none
  else (readExponent? rest).map fun exponent =>
    (digitsValue (whole ++ fraction), exponent - fraction.length)

/-- A decimal text, without blanks around it, as a double. -/
def readBare? (text : List Char) : Option Float :=
  (withoutSeparators false (text.map asciiDigit)).bind fun plain =>
    let (negative, body) := splitSign plain
    let word := body.map Char.toLower
    if word == "inf".toList || word == "infinity".toList then
      some (nearest negative (Nat.pow 2 1024) 1)
    else if word == "nan".toList then some (0.0 / 0.0)
    else (readUnsigned? body).map fun (mantissa, exponent) =>
      nearestDecimal negative mantissa exponent

/-- A decimal text, with blanks allowed around it, as a double. -/
def readFloat? (text : List Char) : Option Float :=
  readBare? (Text.trim text)

def digitOfBase? (base : Nat) (c : Char) : Option Nat :=
  let code := c.toNat
  let value? :=
    if c.isDigit then some (code - 48)
    else if 'a' ≤ c && c ≤ 'f' then some (code - 87)
    else if 'A' ≤ c && c ≤ 'F' then some (code - 55)
    else none
  value?.filter (· < base)

/-- Digits of a base as a number; `afterDigit` tells whether an underscore may come next, and the
text has to end after a digit. -/
def readDigits? (base : Nat) : Nat → Bool → List Char → Option Nat
  | value, afterDigit, [] => if afterDigit then some value else none
  | value, afterDigit, '_' :: rest =>
      if afterDigit then readDigits? base value false rest else none
  | value, _, c :: rest =>
      match digitOfBase? base c with
      | some digit => readDigits? base (value * base + digit) true rest
      | none => none

/-- Drop a base mark such as `0x` together with an underscore right after it. -/
def dropBaseMark (base : Nat) : List Char → List Char
  | '0' :: mark :: rest =>
      let fits := match base with
        | 2 => mark == 'b' || mark == 'B'
        | 8 => mark == 'o' || mark == 'O'
        | 16 => mark == 'x' || mark == 'X'
        | _ => false
      if fits then
        match rest with
        | '_' :: after => after
        | _ => rest
      else '0' :: mark :: rest
  | text => text

def readInt? (base : Nat) (text : List Char) : Option Int :=
  let (negative, digits) := splitSign ((Text.trim text).map asciiDigit)
  (readDigits? base 0 false (dropBaseMark base digits)).map fun value =>
    if negative then -(value : Int) else value

/-- Decimal integers of more digits than this are not converted. -/
def digitLimit : Nat := 4300

def IsConvertible (number : Int) : Prop :=
  (digitsOf number.natAbs).length ≤ digitLimit

instance (number : Int) : Decidable (IsConvertible number) :=
  inferInstanceAs (Decidable (_ ≤ _))

def tooLong : String :=
  "Exceeds the limit (" ++ String.ofList (digitsOf digitLimit) ++
    " digits) for integer string conversion; use sys.set_int_max_str_digits() to increase the limit"

def tooManyDigits (count : Nat) : String :=
  "Exceeds the limit (" ++ String.ofList (digitsOf digitLimit) ++
    " digits) for integer string conversion: value has " ++ String.ofList (digitsOf count) ++
    " digits; use sys.set_int_max_str_digits() to increase the limit"

end WorkflowLint.Decimal
