import WorkflowLint.Text.Keyword
import WorkflowLint.Value.Mention
import WorkflowLint.Proofs.Faults
import Mathlib.Data.List.Infix

/-!
Contract: the texts that a search in a value meets.

`Occurs` is a stretch of a text that matches a name letter by letter without regard to case; letters of
a name stand for themselves.  `Shows` are the texts that a value holds at any depth, as leaves or as
keys, through mappings, lists and tuples.  The search looks at them in the order of a queue, so its answer
is that one of them is accepted.  It can stop only at a key that cannot be written.
-/

set_option autoImplicit false

namespace WorkflowLint

/-! ## Stretches of a text -/

namespace Text

/-- A stretch of the text matches the keyword letter by letter, without regard to case. -/
def Occurs (keyword text : List Char) : Prop :=
  ∃ part, part <:+: text ∧
    List.Forall₂ (fun letter c => sameIgnoringCase letter c = true) keyword part

theorem startsWith_iff {keyword text : List Char} :
    startsWith keyword text = true ↔ ∃ part, part <+: text ∧
      List.Forall₂ (fun letter c => sameIgnoringCase letter c = true) keyword part := by
  induction keyword generalizing text with
  | nil =>
      rw [startsWith]
      exact iff_of_true rfl ⟨[], List.nil_prefix, .nil⟩
  | cons letter keyword inductionHypothesis =>
      cases text with
      | nil =>
          rw [startsWith]
          refine iff_of_false Bool.false_ne_true ?_
          rintro ⟨part, isPrefix, same⟩
          rw [List.prefix_nil.mp isPrefix] at same
          cases same
      | cons c text =>
          rw [startsWith, Bool.and_eq_true, inductionHypothesis]
          constructor
          · rintro ⟨first, part, isPrefix, same⟩
            exact ⟨c :: part, List.cons_prefix_cons.mpr ⟨rfl, isPrefix⟩, .cons first same⟩
          · rintro ⟨_, isPrefix, same⟩
            cases same with
            | cons first others =>
                obtain ⟨rfl, restPrefix⟩ := List.cons_prefix_cons.mp isPrefix
                exact ⟨first, _, restPrefix, others⟩

theorem occursIn_iff {keyword text : List Char} :
    occursIn keyword text = true ↔ Occurs keyword text := by
  induction text with
  | nil =>
      rw [occursIn, startsWith_iff]
      refine exists_congr fun part => and_congr_left fun _ => ?_
      rw [List.prefix_nil, List.infix_nil]
  | cons c text inductionHypothesis =>
      rw [occursIn, Bool.or_eq_true, startsWith_iff, inductionHypothesis]
      constructor
      · rintro (⟨part, isPrefix, same⟩ | ⟨part, isInfix, same⟩)
        · exact ⟨part, isPrefix.isInfix, same⟩
        · exact ⟨part, List.infix_cons isInfix, same⟩
      · rintro ⟨part, isInfix, same⟩
        rcases List.infix_cons_iff.mp isInfix with isPrefix | later
        · exact .inl ⟨part, isPrefix, same⟩
        · exact .inr ⟨part, later, same⟩

theorem anyOccursIn_iff {keywords : List String} {text : List Char} :
    anyOccursIn keywords text = true ↔ ∃ keyword ∈ keywords, Occurs keyword.toList text := by
  simp only [anyOccursIn, List.any_eq_true, occursIn_iff]

end Text

/-! ## Texts inside a value -/

namespace Value

open Sequence (Ends)

/-- A value stands inside another at some depth, or is the other. -/
inductive Inside (inner : Value) : Value → Prop where
  | self : Inside inner inner
  | item {items : List Value} {item : Value} (listed : item ∈ items) (inside : Inside inner item) :
      Inside inner (.list items)
  | part {items : List Value} {item : Value} (listed : item ∈ items) (inside : Inside inner item) :
      Inside inner (.tuple items)
  | field {entries : List (Value × Value)} {key value : Value} (listed : (key, value) ∈ entries)
      (inside : Inside inner value) : Inside inner (.map entries)

/-- The texts that a value shows: its text leaves and its keys, at any depth. -/
inductive Shows (value : Value) : List Char → Prop where
  | leaf {text : String} (inside : Inside (.str text) value) : Shows value text.toList
  | key {entries : List (Value × Value)} {key content : Value} (inside : Inside (.map entries) value)
      (listed : (key, content) ∈ entries) : Shows value key.display

theorem inside_iff {inner outer : Value} :
    Inside inner outer ↔ inner = outer ∨ ∃ child ∈ outer.children, Inside inner child := by
  constructor
  · intro inside
    cases inside with
    | self => exact .inl rfl
    | item listed inside => exact .inr ⟨_, listed, inside⟩
    | part listed inside => exact .inr ⟨_, listed, inside⟩
    | field listed inside => exact .inr ⟨_, List.mem_map.mpr ⟨_, listed, rfl⟩, inside⟩
  · rintro (rfl | ⟨child, isChild, inside⟩)
    · exact .self
    · cases outer with
      | list items => exact .item isChild inside
      | tuple items => exact .part isChild inside
      | map entries =>
          obtain ⟨⟨key, value⟩, listed, rfl⟩ := List.mem_map.mp isChild
          exact .field listed inside
      | _ => cases isChild

/-- What a value itself has to show: its text, or its keys. -/
def ownParts : Value → List Value
  | .str text => [.str text]
  | .map entries => entries.map Prod.fst
  | _ => []

/-- The text leaves and the keys of a value, at any depth. -/
def Offers (value part : Value) : Prop := ∃ inner, Inside inner value ∧ part ∈ inner.ownParts

theorem shows_iff {value : Value} {text : List Char} :
    Shows value text ↔ ∃ part, Offers value part ∧ part.display = text := by
  constructor
  · intro isShown
    cases isShown with
    | leaf inside => exact ⟨_, ⟨_, inside, List.mem_singleton_self _⟩, rfl⟩
    | key inside listed => exact ⟨_, ⟨_, inside, List.mem_map.mpr ⟨_, listed, rfl⟩⟩, rfl⟩
  · rintro ⟨part, ⟨inner, inside, own⟩, rfl⟩
    cases inner with
    | str leaf =>
        rw [List.mem_singleton.mp own]
        exact .leaf inside
    | map entries =>
        obtain ⟨⟨key, content⟩, listed, rfl⟩ := List.mem_map.mp own
        exact .key inside listed
    | _ => cases own

/-- A value offers its own text or keys, and what the values right inside it offer. -/
theorem offers_step {value part : Value} :
    Offers value part ↔ part ∈ value.ownParts ∨ ∃ child ∈ value.children, Offers child part := by
  constructor
  · rintro ⟨inner, inside, own⟩
    rcases inside_iff.mp inside with rfl | ⟨child, isChild, deeper⟩
    · exact .inl own
    · exact .inr ⟨child, isChild, inner, deeper, own⟩
  · rintro (own | ⟨child, isChild, inner, deeper, own⟩)
    · exact ⟨value, .self, own⟩
    · exact ⟨inner, inside_iff.mpr (.inr ⟨child, isChild, deeper⟩), own⟩

/-- Every key inside the value can be written. -/
def KeysSpellable (value : Value) : Prop := ∀ part, Offers value part → part.isSpellable = true

theorem areSpellable_iff {items : List Value} :
    areSpellable items = true ↔ ∀ item ∈ items, item.isSpellable = true := by
  induction items with
  | nil => simp [areSpellable]
  | cons item rest inductionHypothesis => simp [areSpellable, inductionHypothesis]

theorem areSpellableEntries_iff {entries : List (Value × Value)} :
    areSpellableEntries entries = true ↔
      ∀ entry ∈ entries, entry.1.isSpellable = true ∧ entry.2.isSpellable = true := by
  induction entries with
  | nil => simp [areSpellableEntries]
  | cons entry rest inductionHypothesis => simp [areSpellableEntries, inductionHypothesis, and_assoc]

private theorem isSpellable_of_inside {inner outer : Value} (inside : Inside inner outer)
    (spellable : outer.isSpellable = true) : inner.isSpellable = true := by
  induction inside with
  | self => exact spellable
  | item listed _ inductionHypothesis | part listed _ inductionHypothesis =>
      rw [isSpellable, areSpellable_iff] at spellable
      exact inductionHypothesis (spellable _ listed)
  | field listed _ inductionHypothesis =>
      rw [isSpellable, areSpellableEntries_iff] at spellable
      exact inductionHypothesis (spellable _ listed).2

/-- In a value that can be written, so can be the keys. -/
theorem keysSpellable_of_isSpellable {value : Value} (spellable : value.isSpellable = true) :
    value.KeysSpellable := by
  rintro part ⟨inner, inside, own⟩
  have innerSpellable := isSpellable_of_inside inside spellable
  cases inner with
  | str text =>
      cases List.mem_singleton.mp own
      rfl
  | map entries =>
      obtain ⟨entry, listed, rfl⟩ := List.mem_map.mp own
      rw [isSpellable, areSpellableEntries_iff] at innerSpellable
      exact (innerSpellable entry listed).1
  | _ => cases own

/-! ## The search -/

section Search

variable {accepts : List Char → Bool}

theorem showsText_eq (value : Value) :
    value.showsText accepts = value.ownParts.anyM fun part => accepts <$> part.spelled := by
  cases value with
  | str text =>
      rw [ownParts, List.anyM_cons]
      show Except.ok (accepts text.toList) = if accepts text.toList then .ok true else .ok false
      cases accepts text.toList with
      | true => rfl
      | false => rfl
  | map entries =>
      rw [showsText, ownParts]
      induction entries with
      | nil => rfl
      | cons entry rest inductionHypothesis =>
          rw [List.map_cons, List.anyM_cons, List.anyM_cons, inductionHypothesis]
  | _ => rfl

/-- The parts of a value are tried; one that cannot be written stops the search. -/
theorem showsText_ends (value : Value) :
    Ends (fun _ => ∃ part ∈ value.ownParts, part.isSpellable = false)
      (fun answer => answer = true ↔ ∃ part ∈ value.ownParts, accepts part.display = true)
      (value.showsText accepts) := by
  rw [showsText_eq]
  refine Ends.anyM fun part own => ?_
  unfold spelled
  cases canWrite : part.isSpellable with
  | true => exact Iff.rfl
  | false => exact ⟨part, own, canWrite⟩

/-- What a queue offers is offered by its first value itself, or by the queue of the next turn. -/
theorem queue_offers_step {value part : Value} {queue : List Value} :
    (∃ other ∈ value :: queue, Offers other part) ↔
      part ∈ value.ownParts ∨ ∃ other ∈ queue ++ value.children, Offers other part := by
  simp only [List.mem_cons, List.mem_append, or_and_right, exists_or, exists_eq_left]
  rw [@offers_step value part, or_assoc, or_comm (a := ∃ child ∈ value.children, _)]

/-- The search through a queue answers whether the values of the queue offer a part that is accepted.
It stops only where they offer one that cannot be written. -/
theorem meetsText_ends (queue : List Value) :
    Ends (fun _ => ∃ part, (∃ value ∈ queue, Offers value part) ∧ part.isSpellable = false)
      (fun answer => answer = true ↔
        ∃ part, (∃ value ∈ queue, Offers value part) ∧ accepts part.display = true)
      (meetsText accepts queue) := by
  fun_induction meetsText accepts queue with
  | case1 =>
      show false = true ↔ _
      simp
  | case2 value queue inductionHypothesis =>
      simp only [queue_offers_step]
      have own := @showsText_ends accepts value
      cases isOwn : value.showsText accepts with
      | error fault =>
          rw [isOwn] at own
          obtain ⟨part, isPart, cannotWrite⟩ := own
          exact ⟨part, .inl isPart, cannotWrite⟩
      | ok answer =>
          rw [isOwn] at own
          cases answer with
          | true =>
              obtain ⟨part, isPart, isAccepted⟩ := own.mp rfl
              exact iff_of_true rfl ⟨part, .inl isPart, isAccepted⟩
          | false =>
              have refused : ¬ ∃ part ∈ value.ownParts, accepts part.display = true :=
                fun some => Bool.false_ne_true (own.mpr some)
              refine inductionHypothesis.mono ?_ ?_
              · rintro _ ⟨part, isOffered, cannotWrite⟩
                exact ⟨part, .inr isOffered, cannotWrite⟩
              · intro answer isAnswer
                rw [isAnswer]
                simp only [or_and_right, exists_or]
                exact (or_iff_right refused).symm

end Search

end Value

end WorkflowLint
