import WorkflowLint.Proofs.Listing

/-!
Contract: where the text leaves of a value stand.

`LeafAt` says that a text stands at the end of a way through mapping values, lists and tuples.  The walk
with a stack lists the leaves that stand somewhere, each once for each way, in the order of their ways.
-/

set_option autoImplicit false

namespace WorkflowLint.Value

open Listing

/-- A text stands in a value at the end of a way: the value is the text, or the way goes on in one of
the values right inside it. -/
inductive LeafAt : Value → List Nat → String → Prop where
  | here {text : String} : LeafAt (.str text) [] text
  | inside {value : Value} {index : Nat} {child : Value} {way : List Nat} {text : String}
      (atIndex : value.children[index]? = some child) (below : LeafAt child way text) :
      LeafAt value (index :: way) text

/-! ## The walk with a stack -/

theorem leavesOfItems_eq_flatMap (items : List Value) :
    leavesOfItems items = items.flatMap leaves := by
  induction items with
  | nil => simp [leavesOfItems]
  | cons item rest inductionHypothesis =>
      rw [leavesOfItems, inductionHypothesis, List.flatMap_cons]

private theorem leavesOfEntries_eq_flatMap (entries : List (Value × Value)) :
    leavesOfEntries entries = (entries.map (·.2)).flatMap leaves := by
  induction entries with
  | nil => simp [leavesOfEntries]
  | cons entry rest inductionHypothesis =>
      rw [leavesOfEntries, inductionHypothesis, List.map_cons, List.flatMap_cons]

/-- The leaves of a value are its own text and the leaves of what is right inside it. -/
theorem leaves_eq_children (value : Value) :
    value.leaves = value.ownText ++ value.children.flatMap leaves := by
  cases value with
  | list items => simp [leaves, ownText, children, leavesOfItems_eq_flatMap]
  | tuple items => simp [leaves, ownText, children, leavesOfItems_eq_flatMap]
  | map entries => simp [leaves, ownText, children, leavesOfEntries_eq_flatMap]
  | _ => simp [leaves, ownText, children]

namespace TextWalk

/-- What a walk gives in the end: the texts found, then the leaves of the values still to visit, from
the last value of the stack to the first. -/
def outlook (walk : TextWalk) : List String :=
  walk.found.toList ++ walk.stack.toList.reverse.flatMap leaves

/-- A turn moves texts from what is still to be found to what is found, and changes nothing else. -/
theorem outlook_of_turn {walk next : TextWalk} (turned : walk.turn? = some next) :
    next.outlook = walk.outlook := by
  obtain ⟨below, value, before, after, found⟩ := turn_cases turned
  rw [outlook, outlook, before, after, found, List.reverse_append, List.reverse_reverse,
    List.flatMap_append, List.reverse_append, List.reverse_singleton, List.singleton_append,
    List.flatMap_cons, leaves_eq_children value, List.append_assoc, List.append_assoc]

theorem turn?_eq_none_iff {walk : TextWalk} : walk.turn? = none ↔ walk.stack = #[] := by
  rw [turn?, Option.map_eq_none_iff, Array.back?_eq_none_iff]

private theorem finish_eq_outlook (walk : TextWalk) : walk.finish.toList = walk.outlook := by
  fun_induction finish walk with
  | case1 walk done =>
      rw [outlook, turn?_eq_none_iff.mp done]
      exact (List.append_nil _).symm
  | case2 walk next turned inductionHypothesis => rw [inductionHypothesis, outlook_of_turn turned]

end TextWalk

theorem collectTexts_eq_leaves (value : Value) : value.collectTexts = value.leaves := by
  rw [collectTexts, TextWalk.finish_eq_outlook]
  exact List.flatMap_singleton leaves value

/-! ## Leaves with their ways -/

mutual

/-- The leaves of a value, each with its way. -/
def placedLeaves : Value → List (List Nat × String)
  | .str text => [([], text)]
  | .list items => placedLeavesOfItems 0 items
  | .tuple items => placedLeavesOfItems 0 items
  | .map entries => placedLeavesOfEntries 0 entries
  | _ => []

/-- The leaves of the items, numbered from an index on. -/
def placedLeavesOfItems (start : Nat) : List Value → List (List Nat × String)
  | [] => []
  | item :: rest =>
      (placedLeaves item).map (under start) ++ placedLeavesOfItems (start + 1) rest

/-- The leaves of the values of the entries, numbered from an index on. -/
def placedLeavesOfEntries (start : Nat) : List (Value × Value) → List (List Nat × String)
  | [] => []
  | (_, value) :: rest =>
      (placedLeaves value).map (under start) ++ placedLeavesOfEntries (start + 1) rest

end

theorem placedLeavesOfItems_eq_numbered (start : Nat) (items : List Value) :
    placedLeavesOfItems start items = numbered start placedLeaves items := by
  induction items generalizing start with
  | nil => simp [placedLeavesOfItems, numbered]
  | cons item rest inductionHypothesis =>
      rw [placedLeavesOfItems, numbered_cons, inductionHypothesis]

private theorem placedLeavesOfEntries_eq_numbered (start : Nat) (entries : List (Value × Value)) :
    placedLeavesOfEntries start entries = numbered start placedLeaves (entries.map (·.2)) := by
  induction entries generalizing start with
  | nil => simp [placedLeavesOfEntries, numbered]
  | cons entry rest inductionHypothesis =>
      rw [placedLeavesOfEntries, List.map_cons, numbered_cons, inductionHypothesis]

theorem placedLeaves_str (text : String) : placedLeaves (.str text) = [([], text)] := by
  rw [placedLeaves]

/-- A value that is no text has the leaves of what is right inside it. -/
theorem placedLeaves_eq_numbered {value : Value} (noText : value.ownText = []) :
    placedLeaves value = numbered 0 placedLeaves value.children := by
  cases value with
  | str text => simp [ownText] at noText
  | list items => rw [placedLeaves, placedLeavesOfItems_eq_numbered, children]
  | tuple items => rw [placedLeaves, placedLeavesOfItems_eq_numbered, children]
  | map entries => rw [placedLeaves, placedLeavesOfEntries_eq_numbered, children]
  | _ => simp [placedLeaves, children, numbered]

/-- A value is a text, or holds no text of its own. -/
theorem ownText_cases (value : Value) : (∃ text, value = .str text) ∨ value.ownText = [] := by
  cases value with
  | str text => exact .inl ⟨text, rfl⟩
  | _ => exact .inr rfl

private theorem leafAt_str_iff {text other : String} {way : List Nat} :
    LeafAt (.str text) way other ↔ way = [] ∧ other = text := by
  constructor
  · intro stands
    cases stands with
    | here => exact ⟨rfl, rfl⟩
    | inside atIndex _ => simp [children] at atIndex
  · rintro ⟨rfl, rfl⟩
    exact .here

private theorem leafAt_iff_of_no_text {value : Value} (noText : value.ownText = []) {way : List Nat}
    {text : String} :
    LeafAt value way text ↔
      ∃ index rest child, way = index :: rest ∧ value.children[index]? = some child ∧
        LeafAt child rest text := by
  constructor
  · intro stands
    cases stands with
    | here => simp [ownText] at noText
    | inside atIndex below => exact ⟨_, _, _, rfl, atIndex, below⟩
  · rintro ⟨index, rest, child, rfl, atIndex, below⟩
    exact .inside atIndex below

/-- A leaf is placed at a way exactly when it stands there. -/
theorem mem_placedLeaves_iff {value : Value} {way : List Nat} {text : String} :
    (way, text) ∈ placedLeaves value ↔ LeafAt value way text := by
  induction value using children_induction generalizing way text with
  | step value inside =>
      rcases ownText_cases value with ⟨own, rfl⟩ | noText
      · rw [placedLeaves_str, List.mem_singleton, Prod.mk.injEq, leafAt_str_iff]
      · rw [placedLeaves_eq_numbered noText, mem_numbered, leafAt_iff_of_no_text noText]
        constructor
        · rintro ⟨index, rest, child, rfl, atIndex, listed⟩
          exact ⟨index, rest, child, rfl, atIndex,
            (inside child (List.mem_of_getElem? atIndex)).mp listed⟩
        · rintro ⟨index, rest, child, rfl, atIndex, below⟩
          exact ⟨index, rest, child, rfl, atIndex,
            (inside child (List.mem_of_getElem? atIndex)).mpr below⟩

/-- Placed leaves are listed in the order of their ways. -/
theorem placedLeaves_ordered (value : Value) : Ordered (placedLeaves value) := by
  induction value using children_induction with
  | step value inside =>
      rcases ownText_cases value with ⟨own, rfl⟩ | noText
      · rw [placedLeaves_str]
        exact List.pairwise_singleton _ _
      · rw [placedLeaves_eq_numbered noText]
        exact numbered_ordered 0 inside

/-- Without their ways, the placed leaves are the leaves. -/
theorem map_snd_placedLeaves (value : Value) : (placedLeaves value).map (·.2) = value.leaves := by
  induction value using children_induction with
  | step value inside =>
      rcases ownText_cases value with ⟨own, rfl⟩ | noText
      · rw [placedLeaves_str, leaves, List.map_singleton]
      · rw [placedLeaves_eq_numbered noText, map_snd_numbered, leaves_eq_children, noText,
          List.nil_append]
        exact List.flatMap_congr fun child member => inside child member

/-- A search through the leaves finds the leaf that passes at the least way. -/
theorem find?_leaves_iff {value : Value} {test : String → Bool} {text : String} :
    value.leaves.find? test = some text ↔
      ∃ way, LeafAt value way text ∧ test text = true ∧
        ∀ before other, before < way → LeafAt value before other → test other = false := by
  rw [← map_snd_placedLeaves, (placedLeaves_ordered value).find?_iff]
  simp only [mem_placedLeaves_iff]

theorem mem_leaves_iff {value : Value} {text : String} :
    text ∈ value.leaves ↔ ∃ way, LeafAt value way text := by
  simp only [← map_snd_placedLeaves, List.mem_map, Prod.exists, exists_eq_right,
    mem_placedLeaves_iff]

/-! ## The walk, turn by turn -/

/-- A number of turns leads from one state of a walk to another. -/
inductive TextWalk.Turns : Nat → TextWalk → TextWalk → Prop where
  | stay {walk : TextWalk} : Turns 0 walk walk
  | turn {count : Nat} {walk next last : TextWalk} (turned : walk.turn? = some next)
      (others : Turns count next last) : Turns (count + 1) walk last

/-- A walk takes one turn for each value it has to visit, and then its stack is empty. -/
theorem TextWalk.exists_last (walk : TextWalk) :
    ∃ last, Turns walk.load walk last ∧ last.stack = #[] ∧ last.found = walk.finish := by
  fun_induction finish walk with
  | case1 walk done =>
      have isEmpty := turn?_eq_none_iff.mp done
      have noLoad : walk.load = 0 := by rw [load, isEmpty]; rfl
      exact ⟨walk, noLoad ▸ .stay, isEmpty, rfl⟩
  | case2 walk next turned inductionHypothesis =>
      obtain ⟨last, turns, isEmpty, isFound⟩ := inductionHypothesis
      exact ⟨last, load_of_turn turned ▸ .turn turned turns, isEmpty, isFound⟩

/-- The walk through a value comes to its end after one turn for each value inside.  It has then found
the leaves of the recursion, which are the texts at the ends of all ways, in the order of the ways; for a
list they are those of its items, one item after another. -/
theorem collectTexts_walks_through_leaves (value : Value) :
    (∃ last, TextWalk.Turns value.weight (.ofValue value) last ∧ last.stack = #[] ∧
        last.found.toList = value.collectTexts) ∧
      value.collectTexts = value.leaves ∧
      (∃ placed, Ordered placed ∧ (∀ way text, (way, text) ∈ placed ↔ LeafAt value way text) ∧
        value.collectTexts = placed.map (·.2)) ∧
      ∀ items, value = .list items → value.collectTexts = items.flatMap collectTexts := by
  refine ⟨?_, collectTexts_eq_leaves value, ?_, ?_⟩
  · obtain ⟨last, turns, isEmpty, isFound⟩ := (TextWalk.ofValue value).exists_last
    exact ⟨last, turns, isEmpty, congrArg Array.toList isFound⟩
  · refine ⟨placedLeaves value, placedLeaves_ordered value, fun way text => mem_placedLeaves_iff, ?_⟩
    rw [map_snd_placedLeaves, collectTexts_eq_leaves]
  · rintro items rfl
    rw [collectTexts_eq_leaves, leaves, leavesOfItems_eq_flatMap]
    exact List.flatMap_congr fun item _ => (collectTexts_eq_leaves item).symm

end WorkflowLint.Value
