import WorkflowLint.Value.Coercion

/-!
Contract: readings that collect all mismatches.

Owns: a result that is either a value or the list of everything that does not fit, each with the
place where it was met.  Readings are combined field by field, so mismatches keep the order of the
fields.
-/

set_option autoImplicit false

namespace WorkflowLint

inductive Step where
  | field (name : String)
  | index (index : Nat)
  deriving DecidableEq

structure Detail where
  place : List Step
  mismatch : Value.Mismatch
  deriving DecidableEq

/-- A value, or all mismatches. -/
inductive Checked (α : Type) where
  | fits (value : α)
  | fails (details : List Detail)

namespace Checked

def map {α β : Type} (change : α → β) : Checked α → Checked β
  | .fits value => .fits (change value)
  | .fails details => .fails details

/-- Combine two results; the mismatches of the first come first. -/
def combine {α β γ : Type} (join : α → β → γ) : Checked α → Checked β → Checked γ
  | .fits left, .fits right => .fits (join left right)
  | .fails left, .fails right => .fails (left ++ right)
  | .fails left, .fits _ => .fails left
  | .fits _, .fails right => .fails right

/-- Apply a function that is itself read. -/
def apply {α β : Type} (function : Checked (α → β)) (argument : Checked α) : Checked β :=
  combine (fun change value => change value) function argument

def ofReading {α : Type} : Except Value.Mismatch α → Checked α
  | .ok value => .fits value
  | .error mismatch => .fails [⟨[], mismatch⟩]

/-- Put a step in front of all places. -/
def under {α : Type} (step : Step) : Checked α → Checked α
  | .fits value => .fits value
  | .fails details =>
      .fails (details.map fun detail => { detail with place := step :: detail.place })

def items {α : Type} (read : Value → Checked α) : Nat → List Value → Checked (List α)
  | _, [] => .fits []
  | index, item :: rest =>
      combine List.cons ((read item).under (.index index)) (items read (index + 1) rest)

end Checked

namespace Value

def readBool (value : Value) : Checked Bool := .ofReading value.toBool

def readInt (value : Value) : Checked Int := .ofReading value.toInt

def readText (value : Value) : Checked String := .ofReading value.toText

def readTexts (value : Value) : Checked (List String) :=
  match value.toItems with
  | .ok items => Checked.items readText 0 items
  | .error mismatch => .fails [⟨[], mismatch⟩]

def readOptional {α : Type} (read : Value → Checked α) : Value → Checked (Option α)
  | .null => .fits none
  | value => (read value).map some

/-- Read a field; an absent field has its usual value. -/
def readField {α : Type} (entries : List (Value × Value)) (name : String) (usual : α)
    (read : Value → Checked α) : Checked α :=
  match lookupText name entries with
  | some value => (read value).under (.field name)
  | none => .fits usual

def readRecord {α : Type} (name : String) (read : List (Value × Value) → Checked α) :
    Value → Checked α
  | .map entries => read entries
  | _ => .fails [⟨[], .recordKind name⟩]

end Value

end WorkflowLint
