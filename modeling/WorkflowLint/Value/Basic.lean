import WorkflowLint.Decimal.Binary

/-!
Contract: the dynamic values that documents, parameters and configuration texts are made of.

Owns: the value type, mapping lookup and insertion, the notion of an empty value, and equality of
values across number types.

A mapping is the list of its entries in insertion order.  Two keys are one key when they are equal
values, so `1`, `1.0` and `true` share an entry; an insertion keeps the first key and its place and
takes the last value.
-/

set_option autoImplicit false

namespace WorkflowLint

/-- A calendar date, with a time of day when the text gave one. -/
structure Moment where
  year : Nat
  month : Nat
  day : Nat
  /-- Hour, minute, second and microsecond. -/
  time : Option (Nat × Nat × Nat × Nat)
  /-- Offset from universal time in minutes. -/
  offset : Option Int
  deriving DecidableEq

inductive Value where
  | null
  | bool (flag : Bool)
  | int (number : Int)
  | float (number : Float)
  | str (text : String)
  | list (items : List Value)
  | tuple (items : List Value)
  | map (entries : List (Value × Value))
  | set (items : List Value)
  | bytes (octets : List UInt8)
  | moment (point : Moment)

namespace Value

instance : Inhabited Value := ⟨.null⟩

def record (fields : List (String × Value)) : Value :=
  .map (fields.map fun (name, value) => (.str name, value))

def optionalField {α : Type} (name : String) (write : α → Value) (content : Option α) :
    List (String × Value) :=
  content.toList.map fun inner => (name, write inner)

theorem forall_mem_optionalField {α : Type} {name : String} {write : α → Value} {content : Option α}
    {holds : Value → Prop} :
    (∀ field ∈ optionalField name write content, holds field.2) ↔
      ∀ inner ∈ content, holds (write inner) := by
  simp only [optionalField, List.forall_mem_map, Option.mem_toList, Option.mem_def]

def texts (items : List String) : Value :=
  .list (items.map .str)

/-- Null, false, zero, and everything without content. -/
def isEmpty : Value → Bool
  | .null => true
  | .bool flag => !flag
  | .int number => number == 0
  | .float number => number == 0.0
  | .str text => text.isEmpty
  | .list items => items.isEmpty
  | .tuple items => items.isEmpty
  | .map entries => entries.isEmpty
  | .set items => items.isEmpty
  | .bytes octets => octets.isEmpty
  | .moment _ => false

def isNull : Value → Bool
  | .null => true
  | _ => false

def isMap : Value → Bool
  | .map _ => true
  | _ => false

def text? : Value → Option String
  | .str text => some text
  | _ => none

def entries? : Value → Option (List (Value × Value))
  | .map entries => some entries
  | _ => none

/-- The integer that a truth value or an integer stands for among numbers. -/
def wholeNumber? : Value → Option Int
  | .bool flag => some (if flag then 1 else 0)
  | .int number => some number
  | _ => none

/-- Equality of doubles, where what is not a number equals itself. -/
def sameFloat (left right : Float) : Bool :=
  left == right || (left.isNaN && right.isNaN)

/-- Equality of two values that hold no others: numbers are compared by value across their types. -/
def sameScalar : Value → Value → Bool
  | .null, .null => true
  | .str left, .str right => left == right
  | .bytes left, .bytes right => left == right
  | .moment left, .moment right => left == right
  | .float left, .float right => sameFloat left right
  | .float left, right =>
      match right.wholeNumber? with
      | some number => (Decimal.Binary.ofFloat left).compareInt number == some .eq
      | none => false
  | left, .float right =>
      match left.wholeNumber? with
      | some number => (Decimal.Binary.ofFloat right).compareInt number == some .eq
      | none => false
  | left, right =>
      match left.wholeNumber?, right.wholeNumber? with
      | some leftNumber, some rightNumber => leftNumber == rightNumber
      | _, _ => false

mutual

/-- Equality of values.  Mappings and sets are compared without regard to order. -/
def same : Value → Value → Bool
  | .list left, .list right => sameItems left right
  | .tuple left, .tuple right => sameItems left right
  | .map left, .map right => left.length == right.length && sameEntries left right
  | .set left, .set right => left.length == right.length && sameMembers left right
  | left, right => sameScalar left right

def sameItems : List Value → List Value → Bool
  | [], [] => true
  | left :: lefts, right :: rights => same left right && sameItems lefts rights
  | _, _ => false

/-- Each entry on the left has an equal entry on the right. -/
def sameEntries : List (Value × Value) → List (Value × Value) → Bool
  | [], _ => true
  | (key, value) :: rest, right =>
      right.any (fun entry => same key entry.1 && same value entry.2) && sameEntries rest right

def sameMembers : List Value → List Value → Bool
  | [], _ => true
  | left :: lefts, right => right.any (fun member => same left member) && sameMembers lefts right

end

mutual

def isKey : Value → Bool
  | .list _ | .map _ | .set _ => false
  | .tuple items => areKeys items
  | _ => true

def areKeys : List Value → Bool
  | [] => true
  | item :: rest => isKey item && areKeys rest

end

def lookup (key : Value) : List (Value × Value) → Option Value
  | [] => none
  | (other, value) :: rest => if same key other then some value else lookup key rest

def lookupText (name : String) : List (Value × Value) → Option Value
  | [] => none
  | (.str other, value) :: rest => if name == other then some value else lookupText name rest
  | _ :: rest => lookupText name rest

/-- Put an entry: the last value wins, the first key keeps its place. -/
def insert (key value : Value) : List (Value × Value) → List (Value × Value)
  | [] => [(key, value)]
  | (other, old) :: rest =>
      if same key other then (other, value) :: rest else (other, old) :: insert key value rest

/-- The entries of a mapping written as a list of pairs that may repeat a key. -/
def ofPairs (pairs : List (Value × Value)) : List (Value × Value) :=
  pairs.foldl (fun entries (key, value) => insert key value entries) []

def field (name : String) (entries : List (Value × Value)) : Value :=
  (lookupText name entries).getD .null

/-- Field of a value, null when the value is no mapping or has none. -/
def fieldOf (name : String) : Value → Value
  | .map entries => field name entries
  | _ => .null

end Value

end WorkflowLint
