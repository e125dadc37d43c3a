import WorkflowLint.Text.Lowercase
import WorkflowLint.Value.Basic
import WorkflowLint.Yaml.Cursor
import WorkflowLint.Yaml.Tag

/-!
Contract: the value of a scalar text under a tag.

Owns: truth values, integers and numbers in their several notations, dates, and binary content.  A
text that the tag does not admit gives the fault that names it.
-/

set_option autoImplicit false

namespace WorkflowLint.Yaml

/-! ## Numbers -/

def withoutLines (text : List Char) : List Char :=
  text.filter (· != '_')

def splitColons : List Char → List (List Char)
  | [] => [[]]
  | ':' :: rest => [] :: splitColons rest
  | c :: rest =>
      match splitColons rest with
      | part :: parts => (c :: part) :: parts
      | [] => [[c]]

def integerIn (base : Nat) (text : List Char) : Except Fault Int :=
  let body := dropSign (Text.trim text)
  let count := (body.takeWhile Text.isDecimalDigit).length
  if base == 10 && Decimal.digitLimit < count then .error (.tooManyDigits count)
  else
    match Decimal.readInt? base text with
    | some value => .ok value
    | none => .error (.notInteger base (String.ofList text))

/-- Split a sign off; the text must not be empty. -/
def signedText (text : List Char) : Except Fault (Bool × List Char) :=
  match text with
  | [] => .error .emptyNumber
  | '-' :: rest => .ok (true, rest)
  | '+' :: rest => .ok (false, rest)
  | rest => .ok (false, rest)

/-- An unsigned integer text: the first characters tell its base. -/
def unsignedInteger (text : List Char) : Except Fault Int :=
  match text with
  | [] => .error .emptyNumber
  | ['0'] => .ok 0
  | '0' :: 'b' :: digits => integerIn 2 digits
  | '0' :: 'x' :: digits => integerIn 16 digits
  | '0' :: _ => integerIn 8 text
  | _ =>
      if text.contains ':' then do
        let parts ← (splitColons text).mapM (integerIn 10)
        return parts.foldl (fun value part => value * 60 + part) 0
      else integerIn 10 text

def integerValue (text : List Char) : Except Fault Int := do
  let (negative, unsigned) ← signedText (withoutLines text)
  let value ← unsignedInteger unsigned
  return if negative then -value else value

def numberIn (text : List Char) : Except Fault Float :=
  match Decimal.readFloat? text with
  | some value => .ok value
  | none => .error (.notNumber (String.ofList text))

/-- Add up sixtieths from the last part on. -/
def sumSixtieths : Int → Float → List Float → Except Fault Float
  | _, sum, [] => .ok sum
  | weight, sum, part :: parts =>
      match Decimal.nearestInt? weight with
      | some factor => sumSixtieths (weight * 60) (sum + part * factor) parts
      | none => .error .sixtiethTooWide

def numberValue (text : List Char) : Except Fault Float := do
  let (negative, unsigned) ← signedText (Text.lowerChars (withoutLines text))
  let value ←
    if unsigned == ".inf".toList then pure (1.0 / 0.0)
    else if unsigned == ".nan".toList then pure (0.0 / 0.0)
    else if unsigned.contains ':' then do
      let parts ← (splitColons unsigned).mapM numberIn
      sumSixtieths 1 0.0 parts.reverse
    else numberIn unsigned
  return if negative then -value else value

def truthValue (text : List Char) : Except Fault Bool :=
  let word := String.ofList (Text.lowerChars text)
  if ["yes", "true", "on"].contains word then .ok true
  else if ["no", "false", "off"].contains word then .ok false
  else .error (.notTruth word)

/-! ## Dates -/

def isLeapYear (year : Nat) : Bool :=
  year % 4 == 0 && (year % 100 != 0 || year % 400 == 0)

def daysOfMonth (year month : Nat) : Nat :=
  match month with
  | 2 => if isLeapYear year then 29 else 28
  | 4 | 6 | 9 | 11 => 30
  | _ => 31

/-- An offset has to be shorter than a day. -/
def offsetReason (minutes : Int) : String :=
  let days := Int.fdiv minutes 1440
  let seconds := Int.fmod minutes 1440 * 60
  let shown (number : Int) : String := String.ofList (Decimal.ofInt number)
  let parts := (if days == 0 then [] else ["days=" ++ shown days]) ++
    (if seconds == 0 then [] else ["seconds=" ++ shown seconds])
  "offset must be a timedelta strictly between -timedelta(hours=24) and timedelta(hours=24), " ++
    "not datetime.timedelta(" ++ ", ".intercalate parts ++ ")"

/-- Why the parts of a date give none, by the first part that is out of range. -/
def DateParts.reason? (parts : DateParts) : Option String :=
  let offset := parts.offset.filter fun minutes => 1440 ≤ minutes.natAbs
  let (hour, minute, second) := match parts.clock with
    | some (hour, minute, second, _) => (hour, minute, second)
    | none => (0, 0, 0)
  let checks : List (Bool × String) :=
    [(offset.isSome, offsetReason (offset.getD 0)),
      (parts.year < 1, "year 0 is out of range"),
      (parts.month < 1 || 12 < parts.month, "month must be in 1..12"),
      (parts.day < 1 || daysOfMonth parts.year parts.month < parts.day,
        "day is out of range for month"),
      (23 < hour, "hour must be in 0..23"),
      (59 < minute, "minute must be in 0..59"),
      (59 < second, "second must be in 0..59")]
  (checks.find? (·.1)).map (·.2)

def microseconds (fraction : List Char) : Nat :=
  let digits := fraction.take 6
  Decimal.digitsValue (digits ++ List.replicate (6 - digits.length) '0')

def momentValue (text : List Char) : Except Fault Moment :=
  match dateParts? (dropLastBreak text) with
  | none => .error .notMoment
  | some parts =>
      match parts.reason? with
      | some reason => .error (.momentOutOfRange reason)
      | none =>
          let time := parts.clock.map fun (hour, minute, second, fraction) =>
            (hour, minute, second, microseconds fraction)
          .ok ⟨parts.year, parts.month, parts.day, time, parts.offset⟩

/-! ## Binary content -/

def sixtyFourth? (c : Char) : Option Nat :=
  if 'A' ≤ c && c ≤ 'Z' then some (c.toNat - 65)
  else if 'a' ≤ c && c ≤ 'z' then some (c.toNat - 71)
  else if c.isDigit then some (c.toNat + 4)
  else if c == '+' then some 62
  else if c == '/' then some 63
  else none

/-- The state of reading base 64: characters of the open group, the rest of their bits, the pads
met since the last of them, the bytes read. -/
structure GroupReader where
  filled : Nat
  bits : Nat
  pads : Nat
  bytes : List UInt8

def GroupReader.take (reader : GroupReader) (value : Nat) : GroupReader :=
  let put (octet bits filled : Nat) : GroupReader :=
    ⟨filled, bits, 0, reader.bytes ++ [UInt8.ofNat octet]⟩
  match reader.filled with
  | 0 => ⟨1, value, 0, reader.bytes⟩
  | 1 => put (reader.bits * 4 + value / 16) (value % 16) 2
  | 2 => put (reader.bits * 16 + value / 4) (value % 4) 3
  | _ => put (reader.bits * 64 + value) 0 0

/-- Bytes of a base 64 text.  Characters outside the alphabet are passed over; enough pads end the
text; an open group at the end is an error. -/
def base64From (reader : GroupReader) : List Char → Option (List UInt8)
  | [] => if reader.filled == 0 then some reader.bytes else none
  | '=' :: rest =>
      if reader.filled < 2 then base64From reader rest
      else if 4 ≤ reader.filled + reader.pads + 1 then some reader.bytes
      else base64From { reader with pads := reader.pads + 1 } rest
  | c :: rest =>
      match sixtyFourth? c with
      | some value => base64From (reader.take value) rest
      | none => base64From reader rest

def binaryValue (text : List Char) : Except Fault (List UInt8) :=
  if text.all fun c => c.toNat < 128 then
    match base64From ⟨0, 0, 0, []⟩ text with
    | some bytes => .ok bytes
    | none => .error .unreadable
  else .error .unreadable

end WorkflowLint.Yaml
