import WorkflowLint.Schema.Basic
import WorkflowLint.Value.Conversion

/-!
Contract: schemas read from documents.

Reads the demands `type`, `required`, `properties` and `minLength` in the order in which they are
written; other keys demand nothing.  A demand that is not well formed makes the document no schema.
-/

set_option autoImplicit false

namespace WorkflowLint.Schema

def allTexts? (items : List Value) : Option (List String) := items.mapM Value.text?

def areDistinct : List String → Bool
  | [] => true
  | text :: rest => !rest.contains text && areDistinct rest

def distinctTexts? (value : Value) : Option (List String) :=
  match value with
  | .list members => (allTexts? members).filter areDistinct
  | _ => none

def readTypes? : Value → Option Schema
  | .str label => (TypeName.ofLabel? label).map fun name => .types [name] false
  | value => do
      let labels ← distinctTexts? value
      if labels.isEmpty then none
      else return .types (← labels.mapM TypeName.ofLabel?) true

def readLength? : Value → Option Schema
  | .int number => if number < 0 then none else some (.minLength number.toNat)
  | .float number =>
      match (Decimal.Binary.ofFloat number).toInt? with
      | some whole => if whole < 0 then none else some (.minLength whole.toNat)
      | none => none
  | _ => none

mutual

def read? : Value → Option Schema
  | .bool true => some (.every [])
  | .bool false => some .never
  | .map entries => (readDemands? entries).map .every
  | _ => none

def readDemands? : List (Value × Value) → Option (List Schema)
  | [] => some []
  | (key, value) :: rest => do
      let own ← match key, value with
        | .str "type", _ => (readTypes? value).map ([·])
        | .str "required", _ => (distinctTexts? value).map fun names => [.required names]
        | .str "minLength", _ => (readLength? value).map ([·])
        | .str "properties", .map fields => (readFields? fields).map fun fields => [.properties fields]
        | .str "properties", _ => none
        | _, _ => some []
      return own ++ (← readDemands? rest)

def readFields? : List (Value × Value) → Option (List (String × Schema))
  | [] => some []
  | (key, value) :: rest => do
      let name ← key.text?
      let schema ← read? value
      return (name, schema) :: (← readFields? rest)

end

inductive Fault where
  | conversion (fault : Value.ConversionFault)
  | malformed

def ofDocument (document : Value) : Except Fault Schema :=
  match document.toEntries with
  | .error fault => .error (.conversion fault)
  | .ok entries =>
      match readDemands? entries with
      | some demands => .ok (.every demands)
      | none => .error .malformed

end WorkflowLint.Schema
