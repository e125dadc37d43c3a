import WorkflowLint.Text.Word
import WorkflowLint.Value.Display

/-!
Contract: schemas and the problems they find in a value.

Owns: the schema type, the checker, and the order of problems.  A schema is a list of demands; each
demand that a value does not meet is one problem, with the path to the value inside the document.
-/

set_option autoImplicit false

namespace WorkflowLint

inductive TypeName where
  | array
  | boolean
  | integer
  | null
  | number
  | object
  | string
  deriving DecidableEq

namespace TypeName

def label : TypeName → String
  | .array => "array"
  | .boolean => "boolean"
  | .integer => "integer"
  | .null => "null"
  | .number => "number"
  | .object => "object"
  | .string => "string"

def ofLabel? (label : String) : Option TypeName :=
  [TypeName.array, .boolean, .integer, .null, .number, .object, .string].find? (·.label == label)

/-- The value has the type.  A truth value is no number, and a number without a fraction is an
integer. -/
def holds : TypeName → Value → Bool
  | .array, .list _ => true
  | .boolean, .bool _ => true
  | .integer, .int _ => true
  | .integer, .float double => (Decimal.Binary.ofFloat double).toInt?.isSome
  | .null, .null => true
  | .number, .int _ => true
  | .number, .float _ => true
  | .object, .map _ => true
  | .string, .str _ => true
  | _, _ => false

end TypeName

inductive Schema where
  /-- One of the types; `listed` tells whether they are written as a list. -/
  | types (names : List TypeName) (listed : Bool)
  | required (names : List String)
  | properties (fields : List (String × Schema))
  /-- The values of all other keys meet the schema. -/
  | additional (known : List String) (each : Schema)
  | minLength (least : Nat)
  | items (each : Schema)
  /-- The value meets one of the schemas, which exclude each other. -/
  | oneOf (choices : List Schema)
  | every (parts : List Schema)
  | never

structure Problem where
  path : List Value
  /-- The word for the demand that is not met, empty when no value is allowed. -/
  demand : String
  message : String
  suggestion : String

namespace Schema

def typeWords (names : List TypeName) : String :=
  ", ".intercalate (names.map fun name => Text.quoted name.label)

def typeValue (names : List TypeName) (listed : Bool) : Value :=
  match names, listed with
  | [name], false => .str name.label
  | _, _ => .texts (names.map TypeName.label)

/-- The name of a missing field in a suggestion: its quoted form without the quotes, or a question
mark when that is empty or holds a quote itself. -/
def missingName (name : String) : String :=
  match Text.quotedChars name.toList with
  | '\'' :: rest =>
      let inner := rest.dropLast
      if inner.isEmpty || inner.contains '\'' then "?" else String.ofList inner
  | _ => "?"

def wrongType (path : List Value) (names : List TypeName) (listed : Bool) (value : Value) :
    Problem :=
  { path := path
    demand := "type"
    message := value.quotedText ++ " is not of type " ++ typeWords names
    suggestion := "The field should be of type \"" ++ (typeValue names listed).displayText ++ "\"." }

def missingField (path : List Value) (name : String) : Problem :=
  { path := path
    demand := "required"
    message := Text.quoted name ++ " is a required property"
    suggestion := "Add the required field \"" ++ missingName name ++ "\" to the workflow." }

def tooShort (path : List Value) (least : Nat) (value : Value) : Problem :=
  { path := path
    demand := "minLength"
    message := value.quotedText ++
      (if least == 1 then " should be non-empty" else " is too short")
    suggestion := "This field cannot be empty." }

def noChoice (path : List Value) (value : Value) : Problem :=
  { path := path
    demand := "oneOf"
    message := value.quotedText ++ " is not valid under any of the given schemas"
    suggestion := "" }

def notAllowed (path : List Value) (value : Value) : Problem :=
  { path := path
    demand := ""
    message := "False schema does not allow " ++ value.quotedText
    suggestion := "" }

def others (known : List String) (entries : List (Value × Value)) : List (Value × Value) :=
  entries.filter fun (key, _) =>
    match key with
    | .str name => !known.contains name
    | _ => true

mutual

def problems : Schema → List Value → Value → List Problem
  | .types names listed, path, value =>
      if names.any (·.holds value) then [] else [wrongType path names listed value]
  | .required names, path, value =>
      match value with
      | .map entries =>
          (names.filter fun name => (Value.lookupText name entries).isNone).map (missingField path)
      | _ => []
  | .properties fields, path, value =>
      match value with
      | .map entries => fieldProblems fields path entries
      | _ => []
  | .additional known each, path, value =>
      match value with
      | .map entries =>
          (others known entries).flatMap fun (key, child) => problems each (path ++ [key]) child
      | _ => []
  | .minLength least, path, value =>
      match value with
      | .str text => if text.length < least then [tooShort path least value] else []
      | _ => []
  | .items each, path, value =>
      match value with
      | .list members =>
          members.zipIdx.flatMap fun (item, index) => problems each (path ++ [.int index]) item
      | _ => []
  | .oneOf choices, path, value =>
      if meetsAny choices path value then [] else [noChoice path value]
  | .every parts, path, value => allProblems parts path value
  | .never, path, value => [notAllowed path value]

def fieldProblems : List (String × Schema) → List Value → List (Value × Value) → List Problem
  | [], _, _ => []
  | (name, schema) :: rest, path, entries =>
      (match Value.lookupText name entries with
        | some value => problems schema (path ++ [.str name]) value
        | none => []) ++ fieldProblems rest path entries

def meetsAny : List Schema → List Value → Value → Bool
  | [], _, _ => false
  | choice :: rest, path, value =>
      (problems choice path value).isEmpty || meetsAny rest path value

def allProblems : List Schema → List Value → Value → List Problem
  | [], _, _ => []
  | part :: rest, path, value => problems part path value ++ allProblems rest path value

end

end Schema

/-! ## Order of problems -/

/-- A name that a sort key shows without brackets. -/
def isBareName : List Char → Bool
  | [] => false
  | first :: rest =>
      let body := match rest.reverse with
        | '\n' :: others => others.reverse
        | _ => rest
      first.isAlpha && body.all Text.isAsciiWord

/-- One step of a sort key; only texts and integers have one. -/
def pathStep? : Value → Option (List Char)
  | .int index => some ('[' :: Decimal.ofInt index ++ [']'])
  | .bool flag => some ('[' :: (Value.bool flag).display ++ [']'])
  | .str name =>
      let chars := name.toList
      if isBareName chars then some ('.' :: chars)
      else
        let escaped := chars.flatMap fun c => if c == '\\' || c == '\'' then ['\\', c] else [c]
        some ('[' :: '\'' :: escaped ++ ['\'', ']'])
  | _ => none

namespace Problem

def sortKey? (problem : Problem) : Option String :=
  (problem.path.mapM pathStep?).map fun steps => String.ofList ('$' :: steps.flatten)

/-- The path as an issue shows it: the way to the value, or the demand for the whole document. -/
def shownPath (problem : Problem) : String :=
  if problem.path.isEmpty then "#/" ++ problem.demand
  else "/" ++ "/".intercalate (problem.path.map Value.displayText)

end Problem

/-- Problems in the order of their paths, otherwise as they were found; `none` when a path has a
key without a place in the order. -/
def sortedProblems? (problems : List Problem) : Option (List Problem) := do
  let keyed ← problems.mapM fun problem => problem.sortKey?.map fun key => (key, problem)
  return (keyed.mergeSort fun left right => left.1 ≤ right.1).map (·.2)

end WorkflowLint
