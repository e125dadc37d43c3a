import WorkflowLint.Decimal.Reading
import WorkflowLint.Decimal.Shortest
import WorkflowLint.Value.Basic

/-!
Contract: numbers held by values.

A number or a numeric text has a numeric value; truth values have none, and a blank text counts as
zero.  Numeric texts have no digit separators and are finite.  An integer too large for a double is
refused.
-/

set_option autoImplicit false

namespace WorkflowLint

inductive NumberFault where
  | integerTooLarge
  deriving DecidableEq

def NumberFault.message : NumberFault → String
  | .integerTooLarge => "int too large to convert to float"

namespace Value

def textNumber? (text : List Char) : Option Float :=
  let bare := Text.trim text
  if bare.isEmpty then some 0.0
  else if bare.contains '_' then none
  else (Decimal.readBare? bare).filter Float.isFinite

def number : Value → Except NumberFault (Option Float)
  | .int whole =>
      match Decimal.nearestInt? whole with
      | some nearest => .ok (some nearest)
      | none => .error .integerTooLarge
  | .float number => .ok (some number)
  | .str text => .ok (textNumber? text.toList)
  | _ => .ok none

/-- The value at a path of text keys, null where a key is missing or a mapping ends early. -/
def atPath : List String → Value → Value
  | [], value => value
  | name :: path, .map entries => atPath path (field name entries)
  | _ :: _, _ => .null

def splitAtPoints : List Char → List (List Char)
  | [] => [[]]
  | c :: rest =>
      if c == '.' then [] :: splitAtPoints rest
      else
        match splitAtPoints rest with
        | part :: parts => (c :: part) :: parts
        | [] => [[c]]

def pathParts (path : String) : List String :=
  (splitAtPoints path.toList).map String.ofList

/-- The first number found at one of the paths. -/
def numberAt (source : Value) : List String → Except NumberFault (Option Float)
  | [] => .ok none
  | path :: paths => do
      match ← number (atPath (pathParts path) source) with
      | some found => return some found
      | none => numberAt source paths

end Value

namespace Decimal

/-- A number as messages show it: without a point when it is whole. -/
def shown (number : Float) : List Char :=
  match (Binary.ofFloat number).toInt? with
  | some whole => ofInt whole
  | none => Layout.plain.float number

end Decimal

end WorkflowLint
