import WorkflowLint.Value.Basic

/-!
Contract: the texts inside a value.

`leaves` lists the text leaves from left to right through mapping values, lists and tuples; keys are
left out.  A `TextWalk` finds the same leaves turn by turn, with a stack of values still to visit.
-/

set_option autoImplicit false

namespace WorkflowLint.Value

mutual

def weight : Value → Nat
  | .list items => 1 + weightItems items
  | .tuple items => 1 + weightItems items
  | .map entries => 1 + weightEntries entries
  | _ => 1

def weightItems : List Value → Nat
  | [] => 0
  | item :: rest => weight item + weightItems rest

/-- Number of values inside the entries, keys left out. -/
def weightEntries : List (Value × Value) → Nat
  | [] => 0
  | (_, value) :: rest => weight value + weightEntries rest

end

/-- The values right inside a value: mapping values, list items and tuple items. -/
def children : Value → List Value
  | .list items => items
  | .tuple items => items
  | .map entries => entries.map (·.2)
  | _ => []

theorem weightItems_append (left right : List Value) :
    weightItems (left ++ right) = weightItems left + weightItems right := by
  induction left with
  | nil => simp [weightItems]
  | cons item rest inductionHypothesis =>
      simp only [List.cons_append, weightItems, inductionHypothesis]
      omega

theorem weightItems_reverse (items : List Value) :
    weightItems items.reverse = weightItems items := by
  induction items with
  | nil => rfl
  | cons item rest inductionHypothesis =>
      simp only [List.reverse_cons, weightItems_append, weightItems, inductionHypothesis]
      omega

theorem weightItems_values (entries : List (Value × Value)) :
    weightItems (entries.map (·.2)) = weightEntries entries := by
  induction entries with
  | nil => simp [weightItems, weightEntries]
  | cons entry rest inductionHypothesis =>
      simp only [List.map_cons, weightItems, weightEntries, inductionHypothesis]

theorem weight_eq_children (value : Value) : weight value = 1 + weightItems value.children := by
  cases value <;> simp only [weight, children, weightItems, weightItems_values]

mutual

def leaves : Value → List String
  | .str text => [text]
  | .list items => leavesOfItems items
  | .tuple items => leavesOfItems items
  | .map entries => leavesOfEntries entries
  | _ => []

def leavesOfItems : List Value → List String
  | [] => []
  | item :: rest => leaves item ++ leavesOfItems rest

def leavesOfEntries : List (Value × Value) → List String
  | [] => []
  | (_, value) :: rest => leaves value ++ leavesOfEntries rest

end

def ownText : Value → List String
  | .str text => [text]
  | _ => []

/-- A walk through values: the texts found so far, and the values still to visit, the next one at the
end. -/
structure TextWalk where
  found : Array String
  stack : Array Value

namespace TextWalk

def ofValue (value : Value) : TextWalk := ⟨#[], #[value]⟩

/-- One turn: the last value leaves the stack, its own text is found, and the values right inside it go
onto the stack in reverse, so that the first of them is visited next. -/
def turn? (walk : TextWalk) : Option TextWalk :=
  walk.stack.back?.map fun value =>
    ⟨walk.found ++ value.ownText.toArray, walk.stack.pop ++ value.children.reverse.toArray⟩

def load (walk : TextWalk) : Nat := weightItems walk.stack.toList

/-- What a turn does: of a stack that ends in a value, the value gives way to what is right inside it. -/
theorem turn_cases {walk next : TextWalk} (turned : walk.turn? = some next) :
    ∃ below value, walk.stack.toList = below ++ [value] ∧
      next.stack.toList = below ++ value.children.reverse ∧
      next.found.toList = walk.found.toList ++ value.ownText := by
  obtain ⟨value, isLast, rfl⟩ := Option.map_eq_some_iff.mp turned
  rw [← Array.getLast?_toList, List.getLast?_eq_some_iff] at isLast
  obtain ⟨below, split⟩ := isLast
  refine ⟨below, value, split, ?_, Array.toList_append⟩
  rw [Array.toList_append, Array.toList_pop, split, List.dropLast_concat]

theorem load_of_turn {walk next : TextWalk} (turned : walk.turn? = some next) :
    walk.load = next.load + 1 := by
  obtain ⟨below, value, before, after, _⟩ := turn_cases turned
  rw [load, load, before, after, weightItems_append, weightItems_append, weightItems_reverse]
  simp only [weightItems, weight_eq_children]
  omega

def finish (walk : TextWalk) : Array String :=
  match _turned : walk.turn? with
  | none => walk.found
  | some next => next.finish
termination_by walk.load
decreasing_by
  have step := load_of_turn _turned
  omega

end TextWalk

def collectTexts (value : Value) : List String :=
  (TextWalk.ofValue value).finish.toList

end WorkflowLint.Value
