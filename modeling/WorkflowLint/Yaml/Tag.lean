import WorkflowLint.Decimal.Reading

/-!
Contract: the tags of nodes, and the tag of a plain scalar by the look of its text.

Owns: the known tags and the two dialects.  The configuration dialect reads `yes` and `off` as truth
values and dates as dates; the document dialect knows only `true` and `false` and leaves dates texts.
-/

set_option autoImplicit false

namespace WorkflowLint.Yaml

inductive Tag where
  | null
  | truth
  | integer
  | number
  | binary
  | timestamp
  | orderedMap
  | pairs
  | set
  | text
  | sequence
  | mapping
  | merge
  | defaultValue
  | unknown
  deriving DecidableEq

def coreTagSpace : String := "tag:yaml.org,2002:"

def Tag.ofName (name : String) : Tag :=
  let known : List (String × Tag) :=
    [("null", .null), ("bool", .truth), ("int", .integer), ("float", .number),
      ("binary", .binary), ("timestamp", .timestamp), ("omap", .orderedMap), ("pairs", .pairs),
      ("set", .set), ("str", .text), ("seq", .sequence), ("map", .mapping), ("merge", .merge),
      ("value", .defaultValue)]
  match known.find? fun (short, _) => coreTagSpace ++ short == name with
  | some (_, tag) => tag
  | none => .unknown

structure Dialect where
  /-- The spellings of truth values. -/
  truths : List String
  readsDates : Bool

def Dialect.configuration : Dialect where
  truths := ["yes", "Yes", "YES", "no", "No", "NO", "true", "True", "TRUE", "false", "False",
    "FALSE", "on", "On", "ON", "off", "Off", "OFF"]
  readsDates := true

def Dialect.document : Dialect where
  truths := ["true", "True", "TRUE", "false", "False", "FALSE"]
  readsDates := false

/-! ## The look of numbers -/

def isDigitOrLine (c : Char) : Bool := c.isDigit || c == '_'

def dropSign : List Char → List Char
  | '-' :: rest => rest
  | '+' :: rest => rest
  | text => text

/-- One or two digits below sixty, after a colon each: what follows them, and whether there were
any. -/
def sixtieths : Nat → Bool → List Char → Bool × List Char
  | 0, found, text => (found, text)
  | fuel + 1, found, text =>
      match text with
      | ':' :: ten :: one :: rest =>
          if '0' ≤ ten && ten ≤ '5' && one.isDigit then sixtieths fuel true rest
          else if ten.isDigit then sixtieths fuel true (one :: rest)
          else (found, text)
      | [':', digit] => if digit.isDigit then (true, []) else (found, text)
      | _ => (found, text)

/-- Looks like an integer: binary, octal, decimal, hexadecimal or in sixtieths. -/
def looksInteger (text : List Char) : Bool :=
  match dropSign text with
  | ['0'] => true
  | '0' :: 'b' :: rest => !rest.isEmpty && rest.all fun c => c == '0' || c == '1' || c == '_'
  | '0' :: 'x' :: rest =>
      !rest.isEmpty && rest.all fun c => (Decimal.digitOfBase? 16 c).isSome || c == '_'
  | '0' :: rest => !rest.isEmpty && rest.all fun c => ('0' ≤ c && c ≤ '7') || c == '_'
  | first :: rest =>
      first.isDigit &&
        match rest.dropWhile isDigitOrLine with
        | [] => true
        | tail => (sixtieths (tail.length + 1) false tail).2.isEmpty
  | [] => false

def looksExponent : List Char → Bool
  | [] => true
  | mark :: sign :: digits =>
      (mark == 'e' || mark == 'E') && (sign == '-' || sign == '+') && !digits.isEmpty &&
        digits.all Char.isDigit
  | _ => false

/-- Digits with a point among them and an optional exponent, or sixtieths with a point. -/
def looksPointed (unsigned : List Char) : Bool :=
  match unsigned with
  | first :: rest =>
      first.isDigit &&
        match rest.dropWhile isDigitOrLine with
        | '.' :: tail => looksExponent (tail.dropWhile isDigitOrLine)
        | tail =>
            match sixtieths (tail.length + 1) false tail with
            | (true, '.' :: fraction) => fraction.all isDigitOrLine
            | _ => false
  | [] => false

/-- Looks like a number with a fraction, an infinity or no number. -/
def looksNumber (text : List Char) : Bool :=
  let special := String.ofList text
  let unsigned := dropSign text
  looksPointed unsigned ||
    (match text with
      | '.' :: first :: rest => first.isDigit && looksExponent (rest.dropWhile isDigitOrLine)
      | _ => false) ||
    [".inf", ".Inf", ".INF"].contains (String.ofList unsigned) ||
    [".nan", ".NaN", ".NAN"].contains special

/-! ## The look of dates -/

/-- Between `least` and `most` digits at the front, as many as there are. -/
def leadingDigits (least most : Nat) (text : List Char) : Option (List Char × List Char) :=
  let digits := (text.take most).takeWhile Char.isDigit
  if least ≤ digits.length then some (digits, text.drop digits.length) else none

structure DateParts where
  year : Nat
  month : Nat
  day : Nat
  /-- Hour, minute, second and the digits of the fraction. -/
  clock : Option (Nat × Nat × Nat × List Char)
  offset : Option Int
  /-- Month and day were written with two digits each. -/
  padded : Bool

def mark? (expected : Char) : List Char → Option (List Char)
  | c :: rest => if c == expected then some rest else none
  | [] => none

/-- The zone of a time: nothing, `Z`, or an offset. -/
def zone? (text : List Char) : Option (Option Int) :=
  match text.dropWhile fun c => c == ' ' || c == '\t' with
  | [] => if text.isEmpty then some none else none
  | ['Z'] => some (some 0)
  | sign :: rest =>
      if sign == '-' || sign == '+' then do
        let (hours, rest) ← leadingDigits 1 2 rest
        let minutes ← match rest with
          | [] => some []
          | _ => do
              let (minutes, rest) ← leadingDigits 2 2 (← mark? ':' rest)
              if rest.isEmpty then some minutes else none
        let total : Int := Decimal.digitsValue hours * 60 + Decimal.digitsValue minutes
        return some (if sign == '-' then -total else total)
      else none

def clock? (text : List Char) : Option ((Nat × Nat × Nat × List Char) × Option Int) := do
  let rest ← match text with
    | 'T' :: rest => some rest
    | 't' :: rest => some rest
    | _ =>
        let rest := text.dropWhile fun c => c == ' ' || c == '\t'
        if rest.length < text.length then some rest else none
  let (hour, rest) ← leadingDigits 1 2 rest
  let (minute, rest) ← leadingDigits 2 2 (← mark? ':' rest)
  let (second, rest) ← leadingDigits 2 2 (← mark? ':' rest)
  let (fraction, rest) := match rest with
    | '.' :: after => (after.takeWhile Char.isDigit, after.dropWhile Char.isDigit)
    | _ => ([], rest)
  let offset ← zone? rest
  let value := Decimal.digitsValue
  return ((value hour, value minute, value second, fraction), offset)

def dateParts? (text : List Char) : Option DateParts := do
  let (year, rest) ← leadingDigits 4 4 text
  let (month, rest) ← leadingDigits 1 2 (← mark? '-' rest)
  let (day, rest) ← leadingDigits 1 2 (← mark? '-' rest)
  let padded := month.length == 2 && day.length == 2
  let value := Decimal.digitsValue
  match rest with
  | [] => return ⟨value year, value month, value day, none, none, padded⟩
  | _ =>
      let (clock, offset) ← clock? rest
      return ⟨value year, value month, value day, some clock, offset, padded⟩

/-- Looks like a date: without a time, month and day have two digits. -/
def looksDate (text : List Char) : Bool :=
  match dateParts? text with
  | some parts => parts.padded || parts.clock.isSome
  | none => false

/-! ## Tags by look -/

def dropLastBreak (text : List Char) : List Char :=
  match text.reverse with
  | '\n' :: rest => if rest.isEmpty then text else rest.reverse
  | _ => text

/-- The tag of a scalar that carries none, by the look of its text. -/
def Dialect.tagOf (dialect : Dialect) (text : String) : Tag :=
  let chars := dropLastBreak text.toList
  let word := String.ofList chars
  if dialect.truths.contains word then .truth
  else if looksNumber chars then .number
  else if looksInteger chars then .integer
  else if word == "<<" then .merge
  else if ["~", "null", "Null", "NULL", ""].contains word then .null
  else if dialect.readsDates && looksDate chars then .timestamp
  else if word == "=" then .defaultValue
  else if ["!", "&", "*"].contains word then .unknown
  else .text

end WorkflowLint.Yaml
