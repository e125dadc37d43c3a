import WorkflowLint.Yaml.Node
import WorkflowLint.Yaml.ScalarValue

/-!
Contract: the value of a node.

Owns: merge keys, the value of each kind of node, and which of several faults counts.  Values are
made level by level: a collection is filled after all collections of the level above it have been
made.  So of several faults the one nearest to the root counts, and of those the first.
-/

set_option autoImplicit false

namespace WorkflowLint.Yaml

/-- A fault with the number of levels below the node where it arises. -/
structure DeepFault where
  level : Nat
  fault : Fault

/-- A result, or the fault that counts with its level. -/
abbrev Outcome (α : Type) := Except DeepFault α

def here {α : Type} : Except Fault α → Outcome α
  | .ok value => .ok value
  | .error fault => .error ⟨0, fault⟩

/-- A fault found when the collection is filled. -/
def below {α : Type} : Outcome α → Outcome α
  | .ok value => .ok value
  | .error deep => .error { deep with level := deep.level + 1 }

/-- Both results, or of two faults the nearer, the first if both are as near. -/
def both {α β : Type} : Outcome α → Outcome β → Outcome (α × β)
  | .ok left, .ok right => .ok (left, right)
  | .error left, .error right => .error (if right.level < left.level then right else left)
  | .error left, .ok _ => .error left
  | .ok _, .error right => .error right

def every {α : Type} : List (Outcome α) → Outcome (List α)
  | [] => .ok []
  | first :: rest =>
      match both first (every rest) with
      | .ok (value, values) => .ok (value :: values)
      | .error deep => .error deep

/-! ## Merge keys -/

def Node.withTag (tag : Tag) : Node → Node
  | .scalar _ text => .scalar tag text
  | .sequence _ items => .sequence tag items
  | .mapping _ entries => .mapping tag entries

/-- A key that marks the default value is a text when its mapping is flattened. -/
def asTextKey (key : Node) : Node :=
  if key.tag == .defaultValue then key.withTag .text else key

/-- The entries that merge keys bring in, followed by the others. -/
def joined (parts : Except Fault (List (Node × Node) × List (Node × Node))) :
    Except Fault (List (Node × Node)) := do
  let (merged, own) ← parts
  return merged ++ own

mutual

/-- The entries that a merge key brings in: those of a mapping, or of a list of mappings, where the
entries of earlier ones come last so that they win. -/
def mergedEntries : Node → Except Fault (List (Node × Node))
  | .mapping _ entries => joined (partitioned entries)
  | .sequence _ items => mergedItems items
  | .scalar _ _ => .error .unreadable

/-- The entries of the mappings of a list, from the last to the first. -/
def mergedItems : List Node → Except Fault (List (Node × Node))
  | [] => .ok []
  | .mapping _ entries :: rest => do
      let own ← joined (partitioned entries)
      let others ← mergedItems rest
      return others ++ own
  | _ :: _ => .error .unreadable

def partitioned : List (Node × Node) → Except Fault (List (Node × Node) × List (Node × Node))
  | [] => .ok ([], [])
  | (key, value) :: rest =>
      if key.tag == .merge then do
        let merged ← mergedEntries value
        let (more, own) ← partitioned rest
        return (merged ++ more, own)
      else do
        let (merged, own) ← partitioned rest
        return (merged, (asTextKey key, value) :: own)

end

/-- The entries of a mapping with merge keys replaced by what they bring in. -/
def flattened (entries : List (Node × Node)) : Except Fault (List (Node × Node)) :=
  joined (partitioned entries)

/-! ## Values -/

mutual

/-- The text of a node where a scalar is wanted; a mapping may offer one as its default value. -/
def scalarText : Node → Except Fault (List Char)
  | .scalar _ text => .ok text.toList
  | .mapping _ entries => defaultText entries
  | .sequence _ _ => .error .unreadable

def defaultText : List (Node × Node) → Except Fault (List Char)
  | [] => .error .unreadable
  | (key, value) :: rest =>
      if key.tag == .defaultValue then scalarText value else defaultText rest

end

def scalarValue (tag : Tag) (node : Node) : Except Fault Value := do
  let text ← scalarText node
  match tag with
  | .null => return .null
  | .truth => return .bool (← truthValue text)
  | .integer => return .int (← integerValue text)
  | .number => return .float (← numberValue text)
  | .binary => return .bytes (← binaryValue text)
  | .timestamp =>
      match node with
      | .scalar _ _ => return .moment (← momentValue text)
      | _ => throw .momentNotText
  | .text => return .str (String.ofList text)
  | _ => throw .unreadable

/-- A tag of values that are filled after they are made, and that cannot be keys. -/
def Tag.isCollection : Tag → Bool
  | .sequence | .mapping | .set | .orderedMap | .pairs => true
  | _ => false

def misfit {α : Type} : Outcome α := .error ⟨0, .unreadable⟩

/-- The value of a node with at most as many levels as the fuel. -/
def valueOf : Nat → Node → Outcome Value
  | 0, _ => misfit
  | fuel + 1, node =>
      let entryOf (entry : Node × Node) : Outcome (Value × Value) :=
        let key := if entry.1.tag.isCollection then misfit else valueOf fuel entry.1
        both key (valueOf fuel entry.2)
      let entriesOf (node : Node) : Outcome (List (Value × Value)) :=
        match node with
        | .mapping _ entries => do
            let entries ← here (flattened entries)
            return Value.ofPairs (← every (entries.map entryOf))
        | _ => misfit
      let pairOf (node : Node) : Outcome Value :=
        match node with
        | .mapping _ [(key, value)] => do
            let (key, value) ← both (valueOf fuel key) (valueOf fuel value)
            return .tuple [key, value]
        | _ => misfit
      match node.tag with
      | .sequence => below do
          match node with
          | .sequence _ items => return .list (← every (items.map (valueOf fuel)))
          | _ => misfit
      | .mapping => below do return .map (← entriesOf node)
      | .set => below do return .set ((← entriesOf node).map (·.1))
      | .orderedMap | .pairs => below do
          match node with
          | .sequence _ items => return .list (← every (items.map pairOf))
          | _ => misfit
      | tag => here (scalarValue tag node)

/-- The value of a YAML text; a text without a document is null. -/
def decode (dialect : Dialect) (text : List Char) : Except Fault Value := do
  match ← Node.ofText dialect text with
  | none => return .null
  | some root =>
      match valueOf root.height root with
      | .ok value => return value
      | .error deep => throw deep.fault

end WorkflowLint.Yaml
