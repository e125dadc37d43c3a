import WorkflowLint.Decimal.Reading
import WorkflowLint.Text.Quoted
import WorkflowLint.Value.Basic

/-!
Contract: values as messages show them.

The quoted spelling shows texts in quotes, `None`, `True` and `False`, brackets for lists,
braces for mappings and sets.  `display` shows a text as itself and a date in its plain form, and
everything else as in the quoted spelling.  `spelled` is the same for values whose integers are short
enough to be written.
-/

set_option autoImplicit false

namespace WorkflowLint

namespace Moment

def offsetText (minutes : Int) : List Char :=
  (if minutes < 0 then '-' else '+') :: Decimal.padded 2 (minutes.natAbs / 60) ++
    ':' :: Decimal.padded 2 (minutes.natAbs % 60)

def isoText (separator : Char) (moment : Moment) : List Char :=
  let date := Decimal.padded 4 moment.year ++ '-' :: Decimal.padded 2 moment.month ++
    '-' :: Decimal.padded 2 moment.day
  match moment.time with
  | none => date
  | some (hour, minute, second, micro) =>
      date ++ separator :: Decimal.padded 2 hour ++ ':' :: Decimal.padded 2 minute ++
        ':' :: Decimal.padded 2 second ++
        (if micro == 0 then [] else '.' :: Decimal.padded 6 micro) ++
        match moment.offset with
        | none => []
        | some minutes => offsetText minutes

/-- The constructor call that spells an offset. -/
def zoneText (minutes : Int) : String :=
  if minutes == 0 then "datetime.timezone.utc"
  else
    let days := Int.fdiv minutes 1440
    let seconds := Int.fmod minutes 1440 * 60
    let parts :=
      (if days == 0 then [] else ["days=" ++ String.ofList (Decimal.ofInt days)]) ++
        (if seconds == 0 then [] else ["seconds=" ++ String.ofList (Decimal.ofInt seconds)])
    "datetime.timezone(datetime.timedelta(" ++ ", ".intercalate parts ++ "))"

def callText (moment : Moment) : String :=
  let number (value : Nat) : String := String.ofList (Decimal.digitsOf value)
  let date := [number moment.year, number moment.month, number moment.day]
  match moment.time with
  | none => "datetime.date(" ++ ", ".intercalate date ++ ")"
  | some (hour, minute, second, micro) =>
      let clock := [number hour, number minute] ++
        (if micro != 0 then [number second, number micro]
         else if second != 0 then [number second] else [])
      let zone := match moment.offset with
        | none => []
        | some minutes => ["tzinfo=" ++ zoneText minutes]
      "datetime.datetime(" ++ ", ".intercalate (date ++ clock ++ zone) ++ ")"

end Moment

namespace Value

def quotedScalar : Value → List Char
  | .null => "None".toList
  | .bool true => "True".toList
  | .bool false => "False".toList
  | .int number => Decimal.ofInt number
  | .float number => Decimal.Layout.plain.float number
  | .str text => Text.quotedChars text.toList
  | .bytes octets => Text.quotedBytes octets
  | .moment point => point.callText.toList
  | _ => []

mutual

def quoted : Value → List Char
  | .list items => '[' :: quotedItems items ++ [']']
  | .tuple [item] => '(' :: quoted item ++ [',', ')']
  | .tuple items => '(' :: quotedItems items ++ [')']
  | .map entries => '{' :: quotedEntries entries ++ ['}']
  | .set [] => "set()".toList
  | .set items => '{' :: quotedItems items ++ ['}']
  | value => quotedScalar value

def quotedItems : List Value → List Char
  | [] => []
  | [item] => quoted item
  | item :: rest => quoted item ++ ',' :: ' ' :: quotedItems rest

def quotedEntries : List (Value × Value) → List Char
  | [] => []
  | [(key, value)] => quoted key ++ ':' :: ' ' :: quoted value
  | (key, value) :: rest =>
      quoted key ++ ':' :: ' ' :: quoted value ++ ',' :: ' ' :: quotedEntries rest

end

/-- A value as running text. -/
def display : Value → List Char
  | .str text => text.toList
  | .moment point => point.isoText ' '
  | value => value.quoted

mutual

/-- Every integer in the value can be written. -/
def isSpellable : Value → Bool
  | .int number => decide (Decimal.IsConvertible number)
  | .list items => areSpellable items
  | .tuple items => areSpellable items
  | .map entries => areSpellableEntries entries
  | .set items => areSpellable items
  | _ => true

def areSpellable : List Value → Bool
  | [] => true
  | item :: rest => isSpellable item && areSpellable rest

def areSpellableEntries : List (Value × Value) → Bool
  | [] => true
  | (key, value) :: rest => isSpellable key && isSpellable value && areSpellableEntries rest

end

inductive SpellingFault where
  | integerTooLong
  deriving DecidableEq

def SpellingFault.message : SpellingFault → String
  | .integerTooLong => Decimal.tooLong

/-- A value as running text, if its integers can be written. -/
def spelled (value : Value) : Except SpellingFault (List Char) :=
  if value.isSpellable then .ok value.display else .error .integerTooLong

def quotedText (value : Value) : String :=
  String.ofList value.quoted

def displayText (value : Value) : String :=
  String.ofList value.display

end Value

end WorkflowLint
