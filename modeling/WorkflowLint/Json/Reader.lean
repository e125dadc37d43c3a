import WorkflowLint.Decimal.Reading
import WorkflowLint.Value.Basic
import WorkflowLint.Value.Declined

/-!
Contract: JSON texts read as values.

Beyond the standard grammar the reader takes `NaN`, `Infinity` and `-Infinity`.  Integers are
unbounded up to `Decimal.digitLimit` digits.  A repeated key keeps its first place and takes the
last value.  The reader is a recursive descent whose fuel is the number of characters left, since
every nested value starts with a character of its own.  It declines nesting past `nestingLimit`, and
codes of half a surrogate pair.
-/

set_option autoImplicit false

namespace WorkflowLint.Json

inductive Cause where
  | byteOrderMark
  | expectingValue
  | expectingName
  | expectingColon
  | expectingComma
  | unterminatedText
  | controlCharacter
  | badEscape
  | badCodeEscape
  | extraData
  deriving DecidableEq

def Cause.message : Cause → String
  | .byteOrderMark => "Unexpected UTF-8 BOM (decode using utf-8-sig)"
  | .expectingValue => "Expecting value"
  | .expectingName => "Expecting property name enclosed in double quotes"
  | .expectingColon => "Expecting ':' delimiter"
  | .expectingComma => "Expecting ',' delimiter"
  | .unterminatedText => "Unterminated string starting at"
  | .controlCharacter => "Invalid control character at"
  | .badEscape => "Invalid \\escape"
  | .badCodeEscape => "Invalid \\uXXXX escape"
  | .extraData => "Extra data"

/-- Why reading stopped: the text is not JSON, an integer has too many digits, or content is declined. -/
inductive Fault where
  | malformed (cause : Cause)
  | tooManyDigits (count : Nat)
  | declined (content : Declined)
  deriving DecidableEq

def isSpace (c : Char) : Bool :=
  c == ' ' || c == '\t' || c == '\n' || c == '\r'

def skipSpace (text : List Char) : List Char :=
  text.dropWhile isSpace

def readCode? : List Char → Option (Nat × List Char)
  | a :: b :: c :: d :: rest => do
      let a ← Decimal.digitOfBase? 16 a
      let b ← Decimal.digitOfBase? 16 b
      let c ← Decimal.digitOfBase? 16 c
      let d ← Decimal.digitOfBase? 16 d
      return (((a * 16 + b) * 16 + c) * 16 + d, rest)
  | _ => none

def escapeChar? (c : Char) : Option Char :=
  if c == '"' || c == '\\' || c == '/' then some c
  else if c == 'b' then some '\x08'
  else if c == 'f' then some '\x0c'
  else if c == 'n' then some '\n'
  else if c == 'r' then some '\r'
  else if c == 't' then some '\t'
  else none

def isHighSurrogate (code : Nat) : Bool :=
  0xD800 ≤ code && code ≤ 0xDBFF

def isLowSurrogate (code : Nat) : Bool :=
  0xDC00 ≤ code && code ≤ 0xDFFF

def ofCode (code : Nat) : Except Fault Char :=
  if isHalfPair code then .error (.declined .halfPair) else .ok (Char.ofNat code)

/-- The character of a code escape whose first code is read; a pair of codes may make one character.
A code is only read when a character follows its digits. -/
def readPair (code : Nat) (rest : List Char) : Except Fault (Char × List Char) :=
  match rest with
  | '\\' :: 'u' :: digits =>
      if isHighSurrogate code && 4 < digits.length then
        match readCode? digits with
        | none => .error (.malformed .badCodeEscape)
        | some (second, after) =>
            if isLowSurrogate second then
              .ok (Char.ofNat (0x10000 + (code - 0xD800) * 0x400 + (second - 0xDC00)), after)
            else (ofCode code).map (·, rest)
      else (ofCode code).map (·, rest)
  | _ => (ofCode code).map (·, rest)

/-- The rest of a text after its opening quote; `read` holds the characters read, last first. -/
def readText : Nat → List Char → List Char → Except Fault (List Char × List Char)
  | 0, _, _ => .error (.malformed .unterminatedText)
  | _ + 1, _, [] => .error (.malformed .unterminatedText)
  | fuel + 1, read, c :: rest =>
      if c == '"' then .ok (read.reverse, rest)
      else if c == '\\' then
        match rest with
        | [] => .error (.malformed .unterminatedText)
        | 'u' :: digits =>
            if digits.length ≤ 4 then .error (.malformed .badCodeEscape)
            else
              match readCode? digits with
              | none => .error (.malformed .badCodeEscape)
              | some (code, after) => do
                  let (char, after) ← readPair code after
                  readText fuel (char :: read) after
        | mark :: after =>
            match escapeChar? mark with
            | some char => readText fuel (char :: read) after
            | none => .error (.malformed .badEscape)
      else if c.toNat < 0x20 then .error (.malformed .controlCharacter)
      else readText fuel (c :: read) rest

/-- Digits and an optional sign after an exponent mark; nothing when there are no digits. -/
def exponentPart (text : List Char) : Option (List Char × List Char) :=
  match text with
  | mark :: rest =>
      if mark == 'e' || mark == 'E' then
        let (sign, digits) := match rest with
          | '-' :: after => (['-'], after)
          | '+' :: after => ([], after)
          | _ => ([], rest)
        if (digits.takeWhile Char.isDigit).isEmpty then none
        else some (sign ++ digits.takeWhile Char.isDigit, digits.dropWhile Char.isDigit)
      else none
  | [] => none

/-- The digits before the point: a single zero, or digits that do not start with zero. -/
def wholePart? : List Char → Option (List Char × List Char)
  | '0' :: rest => some (['0'], rest)
  | c :: rest =>
      if c.isDigit then some (c :: rest.takeWhile Char.isDigit, rest.dropWhile Char.isDigit)
      else none
  | [] => none

/-- The digits after a point; nothing when no digit follows it. -/
def fractionPart (text : List Char) : List Char × List Char :=
  match text with
  | '.' :: c :: rest =>
      if c.isDigit then (c :: rest.takeWhile Char.isDigit, rest.dropWhile Char.isDigit)
      else ([], text)
  | _ => ([], text)

def exponentValue : List Char → Int
  | '-' :: digits => -(Decimal.digitsValue digits : Int)
  | digits => Decimal.digitsValue digits

def readMagnitude (negative : Bool) (text : List Char) : Except Fault (Value × List Char) :=
  match wholePart? text with
  | none => .error (.malformed .expectingValue)
  | some (whole, afterWhole) =>
      let (fraction, afterFraction) := fractionPart afterWhole
      match fraction, exponentPart afterFraction with
      | [], none =>
          if Decimal.digitLimit < whole.length then .error (.tooManyDigits whole.length)
          else
            let value : Int := Decimal.digitsValue whole
            .ok (.int (if negative then -value else value), afterFraction)
      | fraction, exponent? =>
          let (exponent, rest) := match exponent? with
            | some (part, rest) => (exponentValue part, rest)
            | none => (0, afterFraction)
          .ok (.float (Decimal.nearestDecimal negative (Decimal.digitsValue (whole ++ fraction))
            (exponent - fraction.length)), rest)

/-- The rest of `text` after `word`. -/
def afterWord? (word : List Char) (text : List Char) : Option (List Char) :=
  if word.isPrefixOf text then some (text.drop word.length) else none

def readAtom (text : List Char) : Except Fault (Value × List Char) :=
  match afterWord? "null".toList text, afterWord? "true".toList text,
      afterWord? "false".toList text, afterWord? "NaN".toList text,
      afterWord? "Infinity".toList text, afterWord? "-Infinity".toList text with
  | some rest, _, _, _, _, _ => .ok (.null, rest)
  | _, some rest, _, _, _, _ => .ok (.bool true, rest)
  | _, _, some rest, _, _, _ => .ok (.bool false, rest)
  | _, _, _, some rest, _, _ => .ok (.float (0.0 / 0.0), rest)
  | _, _, _, _, some rest, _ => .ok (.float (1.0 / 0.0), rest)
  | _, _, _, _, _, some rest => .ok (.float (-1.0 / 0.0), rest)
  | _, _, _, _, _, _ =>
      match text with
      | '-' :: rest => readMagnitude true rest
      | _ => readMagnitude false text

/-- One level of nesting less. -/
def deeper : Nat → Except Fault Nat
  | 0 => .error (.declined .nesting)
  | levels + 1 => .ok levels

mutual

/-- A value that may hold so many levels of others. -/
def readValue : Nat → Nat → List Char → Except Fault (Value × List Char)
  | _, 0, _ => .error (.malformed .expectingValue)
  | levels, fuel + 1, text =>
      match text with
      | '"' :: rest => do
          let (read, after) ← readText (rest.length + 1) [] rest
          return (.str (String.ofList read), after)
      | '{' :: rest => do
          let levels ← deeper levels
          match skipSpace rest with
          | '}' :: after => .ok (.map [], after)
          | after => do
              let (entries, after) ← readMembers levels fuel [] after
              return (.map entries, after)
      | '[' :: rest => do
          let levels ← deeper levels
          match skipSpace rest with
          | ']' :: after => .ok (.list [], after)
          | after => do
              let (items, after) ← readItems levels fuel after
              return (.list items, after)
      | _ => readAtom text

def readItems : Nat → Nat → List Char → Except Fault (List Value × List Char)
  | _, 0, _ => .error (.malformed .expectingValue)
  | levels, fuel + 1, text => do
      let (item, after) ← readValue levels fuel text
      match skipSpace after with
      | ']' :: rest => return ([item], rest)
      | ',' :: rest => do
          let (items, rest) ← readItems levels fuel (skipSpace rest)
          return (item :: items, rest)
      | _ => .error (.malformed .expectingComma)

/-- The members of a mapping up to its closing brace, added to the entries read before. -/
def readMembers : Nat → Nat → List (Value × Value) → List Char →
    Except Fault (List (Value × Value) × List Char)
  | _, 0, _, _ => .error (.malformed .expectingName)
  | levels, fuel + 1, entries, text =>
      match text with
      | '"' :: rest => do
          let (name, after) ← readText (rest.length + 1) [] rest
          match skipSpace after with
          | ':' :: after => do
              let (value, after) ← readValue levels fuel (skipSpace after)
              let entries := Value.insert (.str (String.ofList name)) value entries
              match skipSpace after with
              | '}' :: rest => return (entries, rest)
              | ',' :: rest => readMembers levels fuel entries (skipSpace rest)
              | _ => .error (.malformed .expectingComma)
          | _ => .error (.malformed .expectingColon)
      | _ => .error (.malformed .expectingName)

end

def decode (text : List Char) : Except Fault Value :=
  match text with
  | '\ufeff' :: _ => .error (.malformed .byteOrderMark)
  | _ => do
      let (value, rest) ← readValue nestingLimit (text.length + 1) (skipSpace text)
      if (skipSpace rest).isEmpty then return value else .error (.malformed .extraData)

end WorkflowLint.Json
