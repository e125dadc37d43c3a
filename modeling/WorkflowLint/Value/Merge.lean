import WorkflowLint.Value.Basic

/-!
Contract: merging one mapping over another.

Nested mappings merge key by key; every other value replaces what stood there, and null changes
nothing.  Keys of the base keep their order and new keys follow.
-/

set_option autoImplicit false

namespace WorkflowLint.Value

/-- The entries under a key that holds a mapping; none otherwise. -/
def entriesAt (key : Value) (entries : List (Value × Value)) : List (Value × Value) :=
  match lookup key entries with
  | some (.map inner) => inner
  | _ => []

mutual

/-- What comes to stand where these entries stood when a value is laid over them; none when they
stay. -/
def overlay (entries : List (Value × Value)) : Value → Option Value
  | .null => none
  | .map inner => some (.map (merge entries inner))
  | value => some value

def merge (base : List (Value × Value)) : List (Value × Value) → List (Value × Value)
  | [] => base
  | (key, value) :: rest =>
      match overlay (entriesAt key base) value with
      | some result => merge (insert key result base) rest
      | none => merge base rest

end

/-- Merge a value over a mapping: a value without content changes nothing, and a value with content
that is no mapping cannot be merged. -/
def mergeValue? (base : List (Value × Value)) : Value → Option (List (Value × Value))
  | .map entries => some (merge base entries)
  | value => if value.isEmpty then some base else none

end WorkflowLint.Value
