import WorkflowLint.Value.Basic

/-!
Contract: values taken as mappings.

A mapping is taken as it is.  A list or tuple is taken as its pairs, where a pair is anything with
two elements: a list or tuple of two items, a text of two characters, or the two keys of a mapping.
-/

set_option autoImplicit false

namespace WorkflowLint.Value

inductive ConversionFault where
  /-- The value, or one of its items, has no elements at all, or a key cannot be a key. -/
  | unsuitable
  /-- An item has a number of elements other than two. -/
  | wrongLength (index length : Nat)
  deriving DecidableEq

/-- The wording of a fault; unsuitable values have none. -/
def ConversionFault.message : ConversionFault → String
  | .unsuitable => ""
  | .wrongLength index length =>
      s!"dictionary update sequence element #{index} has length {length}; 2 is required"

/-- The elements met when a value is gone through. -/
def elements? : Value → Option (List Value)
  | .list items => some items
  | .tuple items => some items
  | .set items => some items
  | .map entries => some (entries.map (·.1))
  | .str text => some (text.toList.map fun c => .str (String.singleton c))
  | .bytes octets => some (octets.map fun octet => .int octet.toNat)
  | _ => none

def addPairs (index : Nat) (entries : List (Value × Value)) :
    List Value → Except ConversionFault (List (Value × Value))
  | [] => .ok entries
  | item :: rest =>
      match item.elements? with
      | none => .error .unsuitable
      | some [key, value] =>
          if key.isKey then addPairs (index + 1) (insert key value entries) rest
          else .error .unsuitable
      | some elements => .error (.wrongLength index elements.length)

def toEntries : Value → Except ConversionFault (List (Value × Value))
  | .map entries => .ok entries
  | value =>
      match value.elements? with
      | none => .error .unsuitable
      | some items => addPairs 0 [] items

end WorkflowLint.Value
