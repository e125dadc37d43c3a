import WorkflowLint.Proofs.Listing
import WorkflowLint.Value.Link

/-!
Contract: where the links of a value stand.

`LinkAt` says that a link stands at the end of a way through nested lists and tuples.  The links that
`links` finds are those that stand somewhere, each once, in the order of their ways.
-/

set_option autoImplicit false

namespace WorkflowLint.Value

open Listing

/-- A link stands in a value at the end of a way: the value itself is a mapping with a `node` key, or
the way goes on in an item of the list or tuple. -/
inductive LinkAt : Value → List Nat → List (Value × Value) → Prop where
  | here {entries : List (Value × Value)} {reference : Value}
      (named : lookupText "node" entries = some reference) : LinkAt (.map entries) [] entries
  | inList {items : List Value} {index : Nat} {item : Value} {way : List Nat}
      {link : List (Value × Value)} (atIndex : items[index]? = some item)
      (below : LinkAt item way link) : LinkAt (.list items) (index :: way) link
  | inTuple {items : List Value} {index : Nat} {item : Value} {way : List Nat}
      {link : List (Value × Value)} (atIndex : items[index]? = some item)
      (below : LinkAt item way link) : LinkAt (.tuple items) (index :: way) link

mutual

/-- The links of a value, each with its way. -/
def placedLinks : Value → List (List Nat × List (Value × Value))
  | .list items => placedLinksFrom 0 items
  | .tuple items => placedLinksFrom 0 items
  | .map entries => if isLink entries then [([], entries)] else []
  | _ => []

/-- The links of the items, numbered from an index on. -/
def placedLinksFrom (start : Nat) : List Value → List (List Nat × List (Value × Value))
  | [] => []
  | item :: rest => (placedLinks item).map (under start) ++ placedLinksFrom (start + 1) rest

end

theorem placedLinksFrom_eq_numbered (start : Nat) (items : List Value) :
    placedLinksFrom start items = numbered start placedLinks items := by
  induction items generalizing start with
  | nil => simp [placedLinksFrom, numbered]
  | cons item rest inductionHypothesis =>
      rw [placedLinksFrom, numbered_cons, inductionHypothesis]

theorem placedLinks_list (items : List Value) :
    placedLinks (.list items) = numbered 0 placedLinks items := by
  rw [placedLinks, placedLinksFrom_eq_numbered]

theorem placedLinks_tuple (items : List Value) :
    placedLinks (.tuple items) = numbered 0 placedLinks items := by
  rw [placedLinks, placedLinksFrom_eq_numbered]

theorem linksOfItems_eq_flatMap (items : List Value) :
    linksOfItems items = items.flatMap links := by
  induction items with
  | nil => simp [linksOfItems]
  | cons item rest inductionHypothesis =>
      rw [linksOfItems, inductionHypothesis, List.flatMap_cons]

theorem isLink_iff (entries : List (Value × Value)) :
    isLink entries = true ↔ ∃ reference, lookupText "node" entries = some reference := by
  rw [isLink, linkKey, Option.isSome_iff_exists]

/-- Without their ways, the placed links are the links. -/
theorem map_snd_placedLinks (value : Value) : (placedLinks value).map (·.2) = links value := by
  induction value using children_induction with
  | step value inside =>
      cases value with
      | list items =>
          rw [placedLinks_list, map_snd_numbered, links, linksOfItems_eq_flatMap]
          exact List.flatMap_congr fun item member => inside item member
      | tuple items =>
          rw [placedLinks_tuple, map_snd_numbered, links, linksOfItems_eq_flatMap]
          exact List.flatMap_congr fun item member => inside item member
      | map entries =>
          rw [placedLinks, links]
          split <;> rfl
      | _ => simp [placedLinks, links]

/-- A link is placed at a way exactly when it stands there. -/
theorem mem_placedLinks_iff {value : Value} {way : List Nat} {link : List (Value × Value)} :
    (way, link) ∈ placedLinks value ↔ LinkAt value way link := by
  induction value using children_induction generalizing way link with
  | step value inside =>
      cases value with
      | list items =>
          rw [placedLinks_list, mem_numbered]
          constructor
          · intro isListed
            obtain ⟨index, rest, item, rfl, atIndex, listed⟩ := isListed
            exact .inList atIndex ((inside item (List.mem_of_getElem? atIndex)).mp listed)
          · intro stands
            cases stands with
            | inList atIndex below =>
                have listed := (inside _ (List.mem_of_getElem? atIndex)).mpr below
                exact ⟨_, _, _, rfl, atIndex, listed⟩
      | tuple items =>
          rw [placedLinks_tuple, mem_numbered]
          constructor
          · intro isListed
            obtain ⟨index, rest, item, rfl, atIndex, listed⟩ := isListed
            exact .inTuple atIndex ((inside item (List.mem_of_getElem? atIndex)).mp listed)
          · intro stands
            cases stands with
            | inTuple atIndex below =>
                have listed := (inside _ (List.mem_of_getElem? atIndex)).mpr below
                exact ⟨_, _, _, rfl, atIndex, listed⟩
      | map entries =>
          rw [placedLinks]
          constructor
          · intro member
            split at member
            next named =>
              obtain ⟨rfl, rfl⟩ : way = [] ∧ link = entries := by simpa using member
              obtain ⟨reference, found⟩ := (isLink_iff link).mp named
              exact .here found
            next => simp at member
          · intro stands
            cases stands with
            | here found =>
                rw [if_pos ((isLink_iff link).mpr ⟨_, found⟩)]
                simp
      | _ =>
          constructor
          · intro member
            simp [placedLinks] at member
          · intro stands
            cases stands

/-- Placed links are listed in the order of their ways. -/
theorem placedLinks_ordered (value : Value) : Ordered (placedLinks value) := by
  induction value using children_induction with
  | step value inside =>
      cases value with
      | list items =>
          rw [placedLinks_list]
          exact numbered_ordered 0 inside
      | tuple items =>
          rw [placedLinks_tuple]
          exact numbered_ordered 0 inside
      | map entries =>
          rw [placedLinks]
          split
          · exact List.pairwise_singleton _ _
          · exact .nil
      | _ => simp [placedLinks, Ordered]

/-- The links of a value are those that stand somewhere in it. -/
theorem mem_links_iff {value : Value} {link : List (Value × Value)} :
    link ∈ links value ↔ ∃ way, LinkAt value way link := by
  simp only [← map_snd_placedLinks, List.mem_map, Prod.exists, exists_eq_right,
    mem_placedLinks_iff]

/-! ## Filled links -/

/-- What a link refers to; null when its `node` field is absent. -/
def reference (link : List (Value × Value)) : Value := field "node" link

/-- The links that refer to something, each with its way. -/
def filledLinks (value : Value) : List (List Nat × List (Value × Value)) :=
  (placedLinks value).filter fun found => !(reference found.2).isEmpty

theorem mem_filledLinks_iff {value : Value} {way : List Nat} {link : List (Value × Value)} :
    (way, link) ∈ filledLinks value ↔
      LinkAt value way link ∧ (reference link).isEmpty = false := by
  simp [filledLinks, mem_placedLinks_iff]

theorem filledLinks_ordered (value : Value) : Ordered (filledLinks value) :=
  (placedLinks_ordered value).filter _

theorem filledLinks_list (items : List Value) :
    filledLinks (.list items) = numbered 0 filledLinks items := by
  rw [filledLinks, placedLinks_list]
  exact filter_numbered 0 placedLinks items fun link => !(reference link).isEmpty

end WorkflowLint.Value
