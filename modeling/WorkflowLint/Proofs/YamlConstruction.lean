import WorkflowLint.Yaml.Meaning
import WorkflowLint.Proofs.YamlScalars

/-!
Contract: which fault of a node counts.

`Raises` says which faults a node has and how far below it each of them lies, in whatever order they
are met.  A node has a value exactly when it has no fault; otherwise a fault counts than which none is
nearer.  A fault that is not one of form belongs to a scalar that contradicts its tag.  Main statements:
`valueOf_reflects` and `exists_contradiction`.
-/

set_option autoImplicit false

namespace WorkflowLint.Yaml

open Sequence (Ends)

/-! ## Outcomes -/

/-- The outcome of what has these faults: a value when there are none, else a fault of the least
level. -/
def Reflects {α : Type} (faults : Nat → Fault → Prop) : Outcome α → Prop
  | .ok _ => ∀ level fault, ¬ faults level fault
  | .error deep =>
      faults deep.level deep.fault ∧ ∀ level fault, faults level fault → deep.level ≤ level

variable {α β : Type} {faults others : Nat → Fault → Prop}

theorem Reflects.congr {outcome : Outcome α} (reflects : Reflects faults outcome)
    (same : ∀ level fault, faults level fault ↔ others level fault) :
    Reflects others outcome := by
  have equal : faults = others := by
    funext level fault
    exact propext (same level fault)
  rw [← equal]
  exact reflects

theorem Reflects.map {outcome : Outcome α} (reflects : Reflects faults outcome) (change : α → β) :
    Reflects faults (outcome >>= fun value => pure (change value)) := by
  cases outcome with
  | ok value => exact reflects
  | error deep => exact reflects

private theorem here_reflects (step : Except Fault α) :
    Reflects (fun level fault => level = 0 ∧ step = .error fault) (here step) := by
  cases step with
  | ok value =>
      intro level fault raised
      cases raised.2
  | error fault => exact ⟨⟨rfl, rfl⟩, fun level _ _ => Nat.zero_le level⟩

theorem misfit_reflects :
    Reflects (fun level fault => level = 0 ∧ fault = .unreadable) (misfit : Outcome α) :=
  ⟨⟨rfl, rfl⟩, fun level _ _ => Nat.zero_le level⟩

theorem Reflects.below {outcome : Outcome α} (reflects : Reflects faults outcome) :
    Reflects (fun level fault => ∃ inner, level = inner + 1 ∧ faults inner fault)
      (below outcome) := by
  cases outcome with
  | ok value =>
      rintro _ fault ⟨inner, rfl, raised⟩
      exact reflects inner fault raised
  | error deep =>
      refine ⟨⟨deep.level, rfl, reflects.1⟩, ?_⟩
      rintro _ fault ⟨inner, rfl, raised⟩
      exact Nat.succ_le_succ (reflects.2 inner fault raised)

theorem both_reflects {left : Outcome α} {right : Outcome β} (leftReflects : Reflects faults left)
    (rightReflects : Reflects others right) :
    Reflects (fun level fault => faults level fault ∨ others level fault) (both left right) := by
  cases left with
  | ok value =>
      cases right with
      | ok other =>
          rintro level fault (raised | raised)
          · exact leftReflects level fault raised
          · exact rightReflects level fault raised
      | error deep =>
          refine ⟨.inr rightReflects.1, ?_⟩
          rintro level fault (raised | raised)
          · exact absurd raised (leftReflects level fault)
          · exact rightReflects.2 level fault raised
  | error deep =>
      cases right with
      | ok other =>
          refine ⟨.inl leftReflects.1, ?_⟩
          rintro level fault (raised | raised)
          · exact leftReflects.2 level fault raised
          · exact absurd raised (rightReflects level fault)
      | error other =>
          have leftLeast := leftReflects.2
          have rightLeast := rightReflects.2
          show Reflects _ (.error (if other.level < deep.level then other else deep))
          by_cases nearer : other.level < deep.level
          · rw [if_pos nearer]
            refine ⟨.inr rightReflects.1, ?_⟩
            rintro level fault (raised | raised)
            · have := leftLeast level fault raised
              omega
            · exact rightLeast level fault raised
          · rw [if_neg nearer]
            refine ⟨.inl leftReflects.1, ?_⟩
            rintro level fault (raised | raised)
            · exact leftLeast level fault raised
            · have := rightLeast level fault raised
              omega

theorem every_reflects {step : α → Outcome β} {faultsOf : α → Nat → Fault → Prop} {items : List α}
    (each : ∀ item ∈ items, Reflects (faultsOf item) (step item)) :
    Reflects (fun level fault => ∃ item ∈ items, faultsOf item level fault)
      (every (items.map step)) := by
  induction items with
  | nil =>
      rintro level fault ⟨item, member, _⟩
      cases member
  | cons item rest inductionHypothesis =>
      obtain ⟨own, further⟩ := List.forall_mem_cons.mp each
      have joined := (both_reflects own (inductionHypothesis further)).congr fun level fault =>
        (List.exists_mem_cons_iff (faultsOf · level fault) item rest).symm
      rw [List.map_cons, every]
      split
      · next isBoth =>
          rw [isBoth] at joined
          exact joined
      · next isBoth =>
          rw [isBoth] at joined
          exact joined

/-! ## Parts of a node -/

/-- One node is a part of another, or that node itself. -/
inductive Node.Within (part : Node) : Node → Prop where
  | self : part.Within part
  | item {tag : Tag} {items : List Node} {item : Node} (member : item ∈ items)
      (within : part.Within item) : part.Within (.sequence tag items)
  | key {tag : Tag} {entries : List (Node × Node)} {entry : Node × Node}
      (member : entry ∈ entries) (within : part.Within entry.1) : part.Within (.mapping tag entries)
  | value {tag : Tag} {entries : List (Node × Node)} {entry : Node × Node}
      (member : entry ∈ entries) (within : part.Within entry.2) : part.Within (.mapping tag entries)

theorem height_le_itemsHeight {items : List Node} {item : Node} (member : item ∈ items) :
    item.height ≤ itemsHeight items := by
  induction items with
  | nil => cases member
  | cons first rest inductionHypothesis =>
      rw [itemsHeight]
      cases member with
      | head => omega
      | tail _ later =>
          have := inductionHypothesis later
          omega

theorem height_le_entriesHeight {entries : List (Node × Node)} {entry : Node × Node}
    (member : entry ∈ entries) :
    entry.1.height ≤ entriesHeight entries ∧ entry.2.height ≤ entriesHeight entries := by
  induction entries with
  | nil => cases member
  | cons first rest inductionHypothesis =>
      obtain ⟨key, value⟩ := first
      rw [entriesHeight]
      cases member with
      | head =>
          dsimp only
          omega
      | tail _ later =>
          have := inductionHypothesis later
          omega

theorem Node.Within.height_le {part node : Node} (within : part.Within node) :
    part.height ≤ node.height := by
  induction within with
  | self => exact Nat.le_refl _
  | item member _ inductionHypothesis =>
      have := height_le_itemsHeight member
      rw [Node.height]
      omega
  | key member _ inductionHypothesis =>
      have := height_le_entriesHeight member
      rw [Node.height]
      omega
  | value member _ inductionHypothesis =>
      have := height_le_entriesHeight member
      rw [Node.height]
      omega

/-! ## Merge keys -/

/-- The key and the value of an entry are such nodes, but for the tag of a key that marks the default
value. -/
def EntryFrom (inside : Node → Prop) (entry : Node × Node) : Prop :=
  (∃ key, entry.1 = asTextKey key ∧ inside key) ∧ inside entry.2

theorem EntryFrom.mono {inside wider : Node → Prop} {entry : Node × Node}
    (isFrom : EntryFrom inside entry) (widens : ∀ node, inside node → wider node) :
    EntryFrom wider entry := by
  obtain ⟨⟨key, isKey, keyInside⟩, valueInside⟩ := isFrom
  exact ⟨⟨key, isKey, widens key keyInside⟩, widens _ valueInside⟩

/-- Part of a key or a value of the entries. -/
def Among (entries : List (Node × Node)) (part : Node) : Prop :=
  ∃ entry ∈ entries, part.Within entry.1 ∨ part.Within entry.2

theorem Among.within {entries : List (Node × Node)} {part : Node} (among : Among entries part)
    (tag : Tag) : part.Within (.mapping tag entries) := by
  obtain ⟨entry, member, inKey | inValue⟩ := among
  · exact .key member inKey
  · exact .value member inValue

theorem Among.height_le {entries : List (Node × Node)} {part : Node} (among : Among entries part) :
    part.height ≤ entriesHeight entries := by
  obtain ⟨entry, member, within⟩ := among
  have bounds := height_le_entriesHeight member
  rcases within with inKey | inValue
  · exact Nat.le_trans inKey.height_le bounds.1
  · exact Nat.le_trans inValue.height_le bounds.2

theorem Among.tail {entry : Node × Node} {rest : List (Node × Node)} {part : Node}
    (among : Among rest part) : Among (entry :: rest) part := by
  obtain ⟨other, member, within⟩ := among
  exact ⟨other, List.mem_cons_of_mem entry member, within⟩

/-- Flattening refuses entries, or keeps to what they hold. -/
def Flattens (inside : Node → Prop) : Except Fault (List (Node × Node)) → Prop :=
  Ends (· = .unreadable) fun flat => ∀ entry ∈ flat, EntryFrom inside entry

theorem flattened_of_partitioned {entries : List (Node × Node)}
    (ends : Ends (· = .unreadable)
      (fun parts => ∀ entry ∈ parts.1 ++ parts.2, EntryFrom (Among entries) entry)
      (partitioned entries)) : Flattens (Among entries) (joined (partitioned entries)) := by
  rw [joined]
  exact ends.bind fun parts each => each

mutual

private theorem mergedEntries_flattens : ∀ node : Node, Flattens (·.Within node) (mergedEntries node)
  | .mapping tag entries => by
      rw [mergedEntries]
      exact (flattened_of_partitioned (partitioned_ends entries)).mono (fun _ => id)
        fun flat each entry member => (each entry member).mono fun part among => among.within tag
  | .sequence tag items => by
      rw [mergedEntries]
      exact (mergedItems_flattens items).mono (fun _ => id) fun flat each entry member =>
        (each entry member).mono fun part isPart => by
          obtain ⟨item, listed, within⟩ := isPart
          exact .item listed within
  | .scalar tag text => by
      rw [mergedEntries]
      exact rfl

theorem mergedItems_flattens : ∀ items : List Node,
    Flattens (fun part => ∃ item ∈ items, part.Within item) (mergedItems items)
  | [] => by
      rw [mergedItems]
      intro entry member
      cases member
  | .mapping tag entries :: rest => by
      rw [mergedItems]
      refine (flattened_of_partitioned (partitioned_ends entries)).bind fun own ownFrom => ?_
      refine (mergedItems_flattens rest).bind fun others othersFrom => ?_
      intro entry member
      rcases List.mem_append.mp member with later | first
      · refine (othersFrom entry later).mono fun part isPart => ?_
        obtain ⟨item, listed, within⟩ := isPart
        exact ⟨item, List.mem_cons_of_mem _ listed, within⟩
      · exact (ownFrom entry first).mono fun part among =>
          ⟨_, List.mem_cons_self, among.within tag⟩
  | .scalar tag text :: rest => by
      rw [mergedItems]
      · exact rfl
      · intro _ _ isMapping
        cases isMapping
  | .sequence tag items :: rest => by
      rw [mergedItems]
      · exact rfl
      · intro _ _ isMapping
        cases isMapping

theorem partitioned_ends : ∀ entries : List (Node × Node),
    Ends (· = .unreadable)
      (fun parts => ∀ entry ∈ parts.1 ++ parts.2, EntryFrom (Among entries) entry)
      (partitioned entries)
  | [] => by
      rw [partitioned]
      intro entry member
      cases member
  | (key, value) :: rest => by
      rw [partitioned]
      split
      · refine (mergedEntries_flattens value).bind fun merged mergedFrom => ?_
        refine (partitioned_ends rest).bind fun parts partsFrom => ?_
        intro entry member
        rw [List.append_assoc] at member
        rcases List.mem_append.mp member with first | later
        · exact (mergedFrom entry first).mono fun part within =>
            ⟨_, List.mem_cons_self, .inr within⟩
        · exact (partsFrom entry later).mono fun part among => among.tail
      · refine (partitioned_ends rest).bind fun parts partsFrom => ?_
        intro entry member
        rcases List.mem_append.mp member with first | later
        · exact (partsFrom entry (List.mem_append_left _ first)).mono fun part among => among.tail
        · rcases List.mem_cons.mp later with rfl | further
          · exact ⟨⟨key, rfl, _, List.mem_cons_self, .inl .self⟩, _, List.mem_cons_self, .inr .self⟩
          · exact (partsFrom entry (List.mem_append_right _ further)).mono fun part among =>
              among.tail

end

theorem flattened_flattens (entries : List (Node × Node)) :
    Flattens (Among entries) (flattened entries) :=
  flattened_of_partitioned (partitioned_ends entries)

private theorem height_withTag (tag : Tag) (node : Node) :
    (node.withTag tag).height = node.height := by
  cases node with
  | scalar => rfl
  | sequence => rfl
  | mapping => rfl

private theorem height_asTextKey (key : Node) : (asTextKey key).height = key.height := by
  unfold asTextKey
  split
  · exact height_withTag .text key
  · rfl

/-- The keys and values of flattened entries are below the node that holds the entries. -/
theorem height_le_of_flattened {entries flat : List (Node × Node)} {entry : Node × Node}
    (flattens : flattened entries = .ok flat) (member : entry ∈ flat) :
    entry.1.height ≤ entriesHeight entries ∧ entry.2.height ≤ entriesHeight entries := by
  have each := flattened_flattens entries
  rw [flattens] at each
  obtain ⟨⟨key, isKey, keyAmong⟩, valueAmong⟩ := each entry member
  have keyHeight := keyAmong.height_le
  rw [isKey, height_asTextKey]
  exact ⟨keyHeight, valueAmong.height_le⟩

/-! ## The faults of a node -/

/-- A tag of values that are made from entries. -/
def Tag.HoldsEntries (tag : Tag) : Prop := tag = .mapping ∨ tag = .set

/-- A tag of values that are made from mappings of one entry each. -/
def Tag.HoldsPairs (tag : Tag) : Prop := tag = .orderedMap ∨ tag = .pairs

/-- A collection that cannot be made, whatever becomes of its parts: the node has another form than
its tag wants, its merge keys bring in no entries, or a key or a pair has the wrong form. -/
inductive Node.Broken : Node → Prop where
  | scalar {tag : Tag} {text : String} (collection : tag.isCollection = true) :
      Broken (.scalar tag text)
  | sequence {tag : Tag} {items : List Node} (wants : tag.HoldsEntries) :
      Broken (.sequence tag items)
  | mapping {tag : Tag} {entries : List (Node × Node)}
      (wants : tag = .sequence ∨ tag.HoldsPairs) : Broken (.mapping tag entries)
  | merge {tag : Tag} {entries : List (Node × Node)} {fault : Fault} (holds : tag.HoldsEntries)
      (fails : flattened entries = .error fault) : Broken (.mapping tag entries)
  | key {tag : Tag} {entries flat : List (Node × Node)} {entry : Node × Node}
      (holds : tag.HoldsEntries) (flattens : flattened entries = .ok flat) (member : entry ∈ flat)
      (collection : entry.1.tag.isCollection = true) : Broken (.mapping tag entries)
  | pair {tag : Tag} {items : List Node} {item : Node} (holds : tag.HoldsPairs)
      (member : item ∈ items) (noPair : ∀ itemTag entry, item ≠ .mapping itemTag [entry]) :
      Broken (.sequence tag items)

/-- The value of a collection is made from the value of a part. -/
inductive Node.MadeFrom : Node → Node → Prop where
  | item {items : List Node} {item : Node} (member : item ∈ items) :
      MadeFrom (.sequence .sequence items) item
  | key {tag : Tag} {entries flat : List (Node × Node)} {entry : Node × Node}
      (holds : tag.HoldsEntries) (flattens : flattened entries = .ok flat) (member : entry ∈ flat)
      (single : entry.1.tag.isCollection = false) : MadeFrom (.mapping tag entries) entry.1
  | value {tag : Tag} {entries flat : List (Node × Node)} {entry : Node × Node}
      (holds : tag.HoldsEntries) (flattens : flattened entries = .ok flat)
      (member : entry ∈ flat) : MadeFrom (.mapping tag entries) entry.2
  | pairKey {tag itemTag : Tag} {items : List Node} {entry : Node × Node} (holds : tag.HoldsPairs)
      (member : .mapping itemTag [entry] ∈ items) : MadeFrom (.sequence tag items) entry.1
  | pairValue {tag itemTag : Tag} {items : List Node} {entry : Node × Node}
      (holds : tag.HoldsPairs) (member : .mapping itemTag [entry] ∈ items) :
      MadeFrom (.sequence tag items) entry.2

/-- A node has a fault some levels below it. -/
inductive Node.Raises : Node → Nat → Fault → Prop where
  | scalar {node : Node} {fault : Fault} (single : node.tag.isCollection = false)
      (fails : scalarValue node.tag node = .error fault) : node.Raises 0 fault
  | form {node : Node} (broken : node.Broken) : node.Raises 1 .unreadable
  | part {node part : Node} {level : Nat} {fault : Fault} (made : node.MadeFrom part)
      (raises : part.Raises level fault) : node.Raises (level + 1) fault

variable {level : Nat} {fault : Fault}

theorem isCollection_of_holdsEntries {tag : Tag} (holds : tag.HoldsEntries) :
    tag.isCollection = true := by
  rcases holds with rfl | rfl
  · rfl
  · rfl

theorem isCollection_of_holdsPairs {tag : Tag} (holds : tag.HoldsPairs) :
    tag.isCollection = true := by
  rcases holds with rfl | rfl
  · rfl
  · rfl

theorem not_holdsEntries_sequence : ¬ Tag.sequence.HoldsEntries := by
  rintro (isMapping | isSet)
  · cases isMapping
  · cases isSet

theorem not_holdsPairs_sequence : ¬ Tag.sequence.HoldsPairs := by
  rintro (isOrdered | isPairs)
  · cases isOrdered
  · cases isPairs

theorem not_holdsPairs_of_holdsEntries {tag : Tag} (holds : tag.HoldsEntries) :
    ¬ tag.HoldsPairs := by
  rcases holds with rfl | rfl
  · rintro (isOrdered | isPairs)
    · cases isOrdered
    · cases isPairs
  · rintro (isOrdered | isPairs)
    · cases isOrdered
    · cases isPairs

theorem Node.Broken.isCollection {node : Node} (broken : node.Broken) :
    node.tag.isCollection = true := by
  cases broken with
  | scalar collection => exact collection
  | sequence wants => exact isCollection_of_holdsEntries wants
  | mapping wants =>
      rcases wants with rfl | wants
      · rfl
      · exact isCollection_of_holdsPairs wants
  | merge holds => exact isCollection_of_holdsEntries holds
  | key holds => exact isCollection_of_holdsEntries holds
  | pair holds => exact isCollection_of_holdsPairs holds

theorem Node.MadeFrom.isCollection {node part : Node} (made : node.MadeFrom part) :
    node.tag.isCollection = true := by
  cases made with
  | item => rfl
  | key holds => exact isCollection_of_holdsEntries holds
  | value holds => exact isCollection_of_holdsEntries holds
  | pairKey holds => exact isCollection_of_holdsPairs holds
  | pairValue holds => exact isCollection_of_holdsPairs holds

theorem raises_iff_of_single {node : Node} (single : node.tag.isCollection = false) :
    node.Raises level fault ↔ level = 0 ∧ scalarValue node.tag node = .error fault := by
  constructor
  · intro raises
    cases raises with
    | scalar _ fails => exact ⟨rfl, fails⟩
    | form broken => simp [broken.isCollection] at single
    | part made => simp [made.isCollection] at single
  · rintro ⟨rfl, fails⟩
    exact .scalar single fails

/-- The faults one level below a collection: its own form, and the faults of what it is made from. -/
def Node.RaisesBelow (node : Node) (level : Nat) (fault : Fault) : Prop :=
  (node.Broken ∧ level = 0 ∧ fault = .unreadable) ∨
    ∃ part, node.MadeFrom part ∧ part.Raises level fault

private theorem raises_iff_of_collection {node : Node} (collection : node.tag.isCollection = true) :
    node.Raises level fault ↔ ∃ inner, level = inner + 1 ∧ node.RaisesBelow inner fault := by
  constructor
  · intro raises
    cases raises with
    | scalar single => simp [collection] at single
    | form broken => exact ⟨0, rfl, .inl ⟨broken, rfl, rfl⟩⟩
    | part made raises => exact ⟨_, rfl, .inr ⟨_, made, raises⟩⟩
  · rintro ⟨inner, rfl, ⟨broken, rfl, rfl⟩ | ⟨part, made, raises⟩⟩
    · exact .form broken
    · exact .part made raises

/-! ## Values -/

theorem valueOf_single_reflects (fuel : Nat) {node : Node}
    (single : node.tag.isCollection = false) :
    Reflects node.Raises (valueOf (fuel + 1) node) := by
  have made : valueOf (fuel + 1) node = here (scalarValue node.tag node) := by
    unfold valueOf
    cases isTag : node.tag <;> simp_all [Tag.isCollection]
  rw [made]
  exact (here_reflects _).congr fun _ _ => (raises_iff_of_single single).symm

/-- A collection is filled one level below its node. -/
theorem below_reflects {node : Node} {outcome : Outcome α}
    (collection : node.tag.isCollection = true) (reflects : Reflects node.RaisesBelow outcome) :
    Reflects node.Raises (below outcome) :=
  reflects.below.congr fun _ _ => (raises_iff_of_collection collection).symm

/-- A node of another form than its tag wants has that fault alone. -/
theorem below_misfit_reflects {node : Node} (broken : node.Broken)
    (unmade : ∀ part, ¬ node.MadeFrom part) :
    Reflects node.Raises (below (misfit : Outcome α)) := by
  refine below_reflects broken.isCollection (misfit_reflects.congr fun level fault => ?_)
  constructor
  · intro isForm
    exact .inl ⟨broken, isForm⟩
  · rintro (⟨_, isForm⟩ | ⟨part, made, _⟩)
    · exact isForm
    · exact absurd made (unmade part)

private theorem valueOf_sequence_reflects {fuel : Nat} {items : List Node}
    (each : ∀ item ∈ items, Reflects item.Raises (valueOf fuel item)) :
    Reflects (Node.sequence .sequence items).Raises
      (valueOf (fuel + 1) (.sequence .sequence items)) := by
  refine below_reflects rfl (((every_reflects each).map Value.list).congr fun level fault => ?_)
  constructor
  · rintro ⟨item, member, raises⟩
    exact .inr ⟨item, .item member, raises⟩
  · rintro (⟨broken, _⟩ | ⟨part, made, raises⟩)
    · cases broken with
      | sequence wants => exact absurd wants not_holdsEntries_sequence
      | pair holds => exact absurd holds not_holdsPairs_sequence
    · cases made with
      | item member => exact ⟨part, member, raises⟩
      | pairKey holds => exact absurd holds not_holdsPairs_sequence
      | pairValue holds => exact absurd holds not_holdsPairs_sequence

/-- The value of a key, which must be a single one. -/
theorem key_reflects {fuel : Nat} {key : Node} (reflects : Reflects key.Raises (valueOf fuel key)) :
    Reflects
      (fun level fault => (key.tag.isCollection = true ∧ level = 0 ∧ fault = .unreadable) ∨
        (key.tag.isCollection = false ∧ key.Raises level fault))
      (if key.tag.isCollection then misfit else valueOf fuel key) := by
  cases collection : key.tag.isCollection with
  | true => exact misfit_reflects.congr fun level fault => by simp
  | false => exact reflects.congr fun level fault => by simp

private theorem entries_reflect {fuel : Nat} {tag : Tag} {entries : List (Node × Node)}
    (holds : tag.HoldsEntries)
    (each : ∀ flat, flattened entries = .ok flat → ∀ entry ∈ flat,
      Reflects entry.1.Raises (valueOf fuel entry.1) ∧
        Reflects entry.2.Raises (valueOf fuel entry.2)) :
    Reflects (Node.mapping tag entries).RaisesBelow (here (flattened entries) >>= fun flat =>
      every (flat.map fun entry =>
        both (if entry.1.tag.isCollection then misfit else valueOf fuel entry.1)
          (valueOf fuel entry.2)) >>= fun pairs => pure (Value.ofPairs pairs)) := by
  have isForm := flattened_flattens entries
  cases isFlat : flattened entries with
  | error fault =>
      rw [isFlat] at isForm
      exact ⟨.inl ⟨.merge holds isFlat, rfl, isForm⟩, fun level _ _ => Nat.zero_le level⟩
  | ok flat =>
      have eachEntry := every_reflects fun entry member =>
        have parts := each flat isFlat entry member
        both_reflects (key_reflects parts.1) parts.2
      refine (eachEntry.map Value.ofPairs).congr fun level fault => ?_
      constructor
      · rintro ⟨entry, member, (⟨collection, isForm⟩ | ⟨single, raises⟩) | raises⟩
        · exact .inl ⟨.key holds isFlat member collection, isForm⟩
        · exact .inr ⟨entry.1, .key holds isFlat member single, raises⟩
        · exact .inr ⟨entry.2, .value holds isFlat member, raises⟩
      · rintro (⟨broken, isForm⟩ | ⟨part, made, raises⟩)
        · cases broken with
          | mapping wants =>
              rcases wants with rfl | wants
              · exact absurd holds not_holdsEntries_sequence
              · exact absurd wants (not_holdsPairs_of_holdsEntries holds)
          | merge _ fails =>
              rw [isFlat] at fails
              cases fails
          | key _ flattens member collection =>
              cases isFlat.symm.trans flattens
              exact ⟨_, member, .inl (.inl ⟨collection, isForm⟩)⟩
        · cases made with
          | key _ flattens member single =>
              cases isFlat.symm.trans flattens
              exact ⟨_, member, .inl (.inr ⟨single, raises⟩)⟩
          | value _ flattens member =>
              cases isFlat.symm.trans flattens
              exact ⟨_, member, .inr raises⟩

private theorem valueOf_entries_reflects {fuel : Nat} {tag : Tag} {entries : List (Node × Node)}
    (holds : tag.HoldsEntries)
    (each : ∀ flat, flattened entries = .ok flat → ∀ entry ∈ flat,
      Reflects entry.1.Raises (valueOf fuel entry.1) ∧
        Reflects entry.2.Raises (valueOf fuel entry.2)) :
    Reflects (Node.mapping tag entries).Raises (valueOf (fuel + 1) (.mapping tag entries)) := by
  have filled := entries_reflect holds each
  rcases holds with rfl | rfl
  · exact below_reflects rfl (filled.map Value.map)
  · exact below_reflects rfl (filled.map fun pairs => Value.set (pairs.map (·.1)))

/-- The faults of an item that must be a pair. -/
def PairFault (item : Node) (level : Nat) (fault : Fault) : Prop :=
  ((∀ tag entry, item ≠ .mapping tag [entry]) ∧ level = 0 ∧ fault = .unreadable) ∨
    ∃ tag entry, item = .mapping tag [entry] ∧
      (entry.1.Raises level fault ∨ entry.2.Raises level fault)

theorem pairFault_iff_of_pair {tag : Tag} {entry : Node × Node} :
    PairFault (.mapping tag [entry]) level fault ↔
      entry.1.Raises level fault ∨ entry.2.Raises level fault := by
  constructor
  · rintro (⟨noPair, _⟩ | ⟨_, _, isPair, raises⟩)
    · exact absurd rfl (noPair tag entry)
    · cases isPair
      exact raises
  · intro raises
    exact .inr ⟨tag, entry, rfl, raises⟩

private theorem pairFault_iff_of_other {item : Node}
    (noPair : ∀ tag entry, item ≠ .mapping tag [entry]) :
    PairFault item level fault ↔ level = 0 ∧ fault = .unreadable := by
  constructor
  · rintro (⟨_, isForm⟩ | ⟨tag, entry, isPair, _⟩)
    · exact isForm
    · exact absurd isPair (noPair tag entry)
  · intro isForm
    exact .inl ⟨noPair, isForm⟩

private theorem exists_pairFault_iff {tag : Tag} {items : List Node} (holds : tag.HoldsPairs) :
    (∃ item ∈ items, PairFault item level fault) ↔
      (Node.sequence tag items).RaisesBelow level fault := by
  constructor
  · rintro ⟨item, member, ⟨noPair, isForm⟩ | ⟨itemTag, entry, rfl, inKey | inValue⟩⟩
    · exact .inl ⟨.pair holds member noPair, isForm⟩
    · exact .inr ⟨entry.1, .pairKey holds member, inKey⟩
    · exact .inr ⟨entry.2, .pairValue holds member, inValue⟩
  · rintro (⟨broken, isForm⟩ | ⟨part, made, raises⟩)
    · cases broken with
      | sequence wants => exact absurd holds (not_holdsPairs_of_holdsEntries wants)
      | pair _ member noPair => exact ⟨_, member, .inl ⟨noPair, isForm⟩⟩
    · cases made with
      | item => exact absurd holds not_holdsPairs_sequence
      | pairKey _ member => exact ⟨_, member, pairFault_iff_of_pair.mpr (.inl raises)⟩
      | pairValue _ member => exact ⟨_, member, pairFault_iff_of_pair.mpr (.inr raises)⟩

private theorem valueOf_pairs_reflects {fuel : Nat} {tag : Tag} {items : List Node}
    (holds : tag.HoldsPairs)
    (each : ∀ tag entry, .mapping tag [entry] ∈ items →
      Reflects entry.1.Raises (valueOf fuel entry.1) ∧
        Reflects entry.2.Raises (valueOf fuel entry.2)) :
    Reflects (Node.sequence tag items).Raises (valueOf (fuel + 1) (.sequence tag items)) := by
  unfold valueOf
  extract_lets entryOf entriesOf pairOf
  have pairReflects : ∀ item ∈ items, Reflects (PairFault item) (pairOf item) := by
    intro item member
    have others (noPair : ∀ tag entry, item ≠ .mapping tag [entry]) :
        Reflects (PairFault item) (misfit : Outcome Value) :=
      misfit_reflects.congr fun _ _ => (pairFault_iff_of_other noPair).symm
    rcases item with ⟨_, _⟩ | ⟨_, _⟩ | ⟨itemTag, _ | ⟨entry, _ | _⟩⟩
    · exact others (by simp)
    · exact others (by simp)
    · exact others (by simp)
    · obtain ⟨keyReflects, valueReflects⟩ := each itemTag entry member
      have joined := (both_reflects keyReflects valueReflects).congr
        fun level fault => (@pairFault_iff_of_pair level fault itemTag entry).symm
      exact joined.map fun pair => Value.tuple [pair.1, pair.2]
    · exact others (by simp)
  have filled := ((every_reflects pairReflects).map Value.list).congr
    fun _ _ => exists_pairFault_iff holds
  rcases holds with rfl | rfl
  · exact below_reflects rfl filled
  · exact below_reflects rfl filled

private theorem height_pos (node : Node) : 0 < node.height := by
  cases node with
  | scalar => exact Nat.one_pos
  | sequence => exact Nat.succ_pos _
  | mapping => exact Nat.succ_pos _

theorem Tag.kinds (tag : Tag) :
    tag.isCollection = false ∨ tag = .sequence ∨ tag.HoldsEntries ∨ tag.HoldsPairs := by
  cases tag <;> simp [isCollection, HoldsEntries, HoldsPairs]

private theorem not_madeFrom_sequence {tag : Tag} {items : List Node} (wants : tag.HoldsEntries)
    (part : Node) : ¬ (Node.sequence tag items).MadeFrom part := by
  intro made
  cases made with
  | item => exact not_holdsEntries_sequence wants
  | pairKey holds => exact not_holdsPairs_of_holdsEntries wants holds
  | pairValue holds => exact not_holdsPairs_of_holdsEntries wants holds

private theorem not_madeFrom_mapping {tag : Tag} {entries : List (Node × Node)}
    (wants : tag = .sequence ∨ tag.HoldsPairs) (part : Node) :
    ¬ (Node.mapping tag entries).MadeFrom part := by
  have notEntries : ¬ tag.HoldsEntries := by
    intro holds
    rcases wants with rfl | wants
    · exact not_holdsEntries_sequence holds
    · exact not_holdsPairs_of_holdsEntries holds wants
  intro made
  cases made with
  | key holds => exact notEntries holds
  | value holds => exact notEntries holds

private theorem valueOf_scalar_reflects (fuel : Nat) (tag : Tag) (text : String) :
    Reflects (Node.scalar tag text).Raises (valueOf (fuel + 1) (.scalar tag text)) := by
  rcases tag.kinds with single | collection
  · exact valueOf_single_reflects fuel single
  · have isCollection : tag.isCollection = true := by
      rcases collection with rfl | holds | holds
      · rfl
      · exact isCollection_of_holdsEntries holds
      · exact isCollection_of_holdsPairs holds
    have outcome : Reflects (Node.scalar tag text).Raises (below (misfit : Outcome Value)) :=
      below_misfit_reflects (.scalar isCollection) (by
        intro part made
        cases made)
    rcases collection with rfl | (rfl | rfl) | (rfl | rfl)
    · exact outcome
    · exact outcome
    · exact outcome
    · exact outcome
    · exact outcome

/-- A node has a value when no fault is raised below it; else a fault counts than which none is
nearer. -/
theorem valueOf_reflects (fuel : Nat) :
    ∀ node : Node, node.height ≤ fuel → Reflects node.Raises (valueOf fuel node) := by
  -- The induction is on the fuel and not on the node: entries that merge keys bring in, and default
  -- keys, are no parts of the node itself, but they are lower than it.
  induction fuel with
  | zero =>
      intro node fits
      have := height_pos node
      omega
  | succ fuel inductionHypothesis =>
      intro node fits
      cases node with
      | scalar tag text => exact valueOf_scalar_reflects fuel tag text
      | sequence tag items =>
          have shorter (item : Node) (member : item ∈ items) : item.height ≤ fuel := by
            have := height_le_itemsHeight member
            rw [Node.height] at fits
            omega
          rcases tag.kinds with single | rfl | wants | holds
          · exact valueOf_single_reflects fuel single
          · exact valueOf_sequence_reflects fun item member =>
              inductionHypothesis item (shorter item member)
          · have outcome : Reflects (Node.sequence tag items).Raises
                (below (misfit : Outcome Value)) :=
              below_misfit_reflects (.sequence wants) (not_madeFrom_sequence wants)
            rcases wants with rfl | rfl
            · exact outcome
            · exact outcome
          · refine valueOf_pairs_reflects holds fun itemTag entry member => ?_
            have fitsItem := shorter _ member
            rw [Node.height, entriesHeight, entriesHeight] at fitsItem
            exact ⟨inductionHypothesis _ (by omega), inductionHypothesis _ (by omega)⟩
      | mapping tag entries =>
          rw [Node.height] at fits
          have outcome (wants : tag = .sequence ∨ tag.HoldsPairs) :
              Reflects (Node.mapping tag entries).Raises (below (misfit : Outcome Value)) :=
            below_misfit_reflects (.mapping wants) (not_madeFrom_mapping wants)
          rcases tag.kinds with single | rfl | holds | rfl | rfl
          · exact valueOf_single_reflects fuel single
          · exact outcome (.inl rfl)
          · refine valueOf_entries_reflects holds fun flat flattens entry member => ?_
            have := height_le_of_flattened flattens member
            exact ⟨inductionHypothesis _ (by omega), inductionHypothesis _ (by omega)⟩
          · exact outcome (.inr (.inl rfl))
          · exact outcome (.inr (.inr rfl))

/-! ## Faults that are not of form -/

theorem Node.Within.trans {inner part node : Node} (innerWithin : inner.Within part)
    (partWithin : part.Within node) : inner.Within node := by
  induction partWithin with
  | self => exact innerWithin
  | item member _ inductionHypothesis => exact .item member inductionHypothesis
  | key member _ inductionHypothesis => exact .key member inductionHypothesis
  | value member _ inductionHypothesis => exact .value member inductionHypothesis

private theorem tag_withTag (tag : Tag) (node : Node) : (node.withTag tag).tag = tag := by
  cases node with
  | scalar => rfl
  | sequence => rfl
  | mapping => rfl

private theorem asTextKey_cases (key : Node) : asTextKey key = key ∨ (asTextKey key).tag = .text := by
  unfold asTextKey
  split
  · exact .inr (tag_withTag .text key)
  · exact .inl rfl

/-- What a collection is made from is a part of it, or a text. -/
theorem Node.MadeFrom.within_or_text {node part : Node} (made : node.MadeFrom part) :
    part.Within node ∨ part.tag = .text := by
  cases made with
  | item member => exact .inl (.item member .self)
  | @key tag entries flat entry holds flattens member single =>
      have each := flattened_flattens entries
      rw [flattens] at each
      obtain ⟨⟨key, isKey, among⟩, _⟩ := each entry member
      rw [isKey]
      rcases asTextKey_cases key with same | isText
      · rw [same]
        exact .inl (among.within tag)
      · exact .inr isText
  | @value tag entries flat entry holds flattens member =>
      have each := flattened_flattens entries
      rw [flattens] at each
      exact .inl ((each entry member).2.within tag)
  | pairKey holds member => exact .inl (.item member (.key List.mem_cons_self .self))
  | pairValue holds member => exact .inl (.item member (.value List.mem_cons_self .self))

private theorem unreadable_of_text {node : Node} (isText : node.tag = .text)
    (raises : node.Raises level fault) : fault = .unreadable := by
  have single : node.tag.isCollection = false := by
    rw [isText]
    rfl
  have fails := ((raises_iff_of_single single).mp raises).2
  rw [isText] at fails
  rcases scalarValue_failsOnly .text node fault fails with isForm | contradiction
  · exact isForm
  · cases contradiction

/-- A fault that is not one of form is the fault of a part that contradicts its tag. -/
theorem Node.Raises.exists_contradiction {node : Node} (raises : node.Raises level fault)
    (notForm : fault ≠ .unreadable) :
    ∃ part : Node, part.Within node ∧ scalarValue part.tag part = .error fault ∧
      Contradiction part.tag fault := by
  induction raises with
  | @scalar node fault single fails =>
      rcases scalarValue_failsOnly node.tag node fault fails with isForm | contradiction
      · exact absurd isForm notForm
      · exact ⟨node, .self, fails, contradiction⟩
  | form => exact absurd rfl notForm
  | part made raises inductionHypothesis =>
      obtain ⟨inner, within, fails, contradiction⟩ := inductionHypothesis notForm
      -- A default key is made as a text, and so it is no part of the node; texts have no such fault.
      rcases made.within_or_text with partWithin | isText
      · exact ⟨inner, within.trans partWithin, fails, contradiction⟩
      · exact absurd (unreadable_of_text isText raises) notForm

end WorkflowLint.Yaml
