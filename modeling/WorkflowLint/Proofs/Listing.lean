import WorkflowLint.Proofs.Sequence
import WorkflowLint.Value.Leaves

/-!
Contract: listings of what is found inside nested things.

A listing gives each thing found together with its way, the indices that lead to it.  Owns: the order
of ways, listings of lists made from listings of their items, and induction over what a value holds.

A listing whose ways increase and whose members are known is the only one of its kind, so these two
facts say which things are listed, that each is listed once, and in which order.
-/

set_option autoImplicit false

namespace WorkflowLint

namespace Listing

variable {α β : Type}

/-- One of two listed things comes first. -/
def Earlier (left right : List Nat × β) : Prop := left.1 < right.1

/-- The things are listed in the order of their ways. -/
def Ordered (listing : List (List Nat × β)) : Prop := listing.Pairwise Earlier

/-- A thing found under an index. -/
def under (index : Nat) (found : List Nat × β) : List Nat × β := (index :: found.1, found.2)

/-- The listing of a list from the listings of its items. -/
def numbered (start : Nat) (listing : α → List (List Nat × β)) (items : List α) :
    List (List Nat × β) :=
  (items.zipIdx start).flatMap fun (item, index) => (listing item).map (under index)

private theorem earlier_under_same (index : Nat) (left right : List Nat × β) :
    Earlier (under index left) (under index right) ↔ Earlier left right := by
  simp [Earlier, under]

private theorem earlier_under_of_lt {first second : Nat} (less : first < second)
    (left right : List Nat × β) : Earlier (under first left) (under second right) := by
  simp [Earlier, under, List.cons_lt_cons_iff, less]

theorem numbered_cons (start : Nat) (listing : α → List (List Nat × β)) (item : α)
    (rest : List α) :
    numbered start listing (item :: rest) =
      (listing item).map (under start) ++ numbered (start + 1) listing rest := by
  simp [numbered]

/-- What is found in a list is what is found in one of its items, under the index of the item. -/
theorem mem_numbered {listing : α → List (List Nat × β)} {items : List α} {way : List Nat}
    {found : β} :
    (way, found) ∈ numbered 0 listing items ↔
      ∃ index rest item, way = index :: rest ∧ items[index]? = some item ∧
        (rest, found) ∈ listing item := by
  simp only [numbered, List.mem_flatMap, List.mem_map, Prod.exists]
  constructor
  · intro listed
    obtain ⟨item, index, member, rest, other, listed, equal⟩ := listed
    obtain ⟨rfl, rfl⟩ : index :: rest = way ∧ other = found := by simpa [under] using equal
    exact ⟨index, rest, item, rfl, List.mk_mem_zipIdx_iff_getElem?.mp member, listed⟩
  · intro stands
    obtain ⟨index, rest, item, rfl, atIndex, listed⟩ := stands
    exact ⟨item, index, List.mk_mem_zipIdx_iff_getElem?.mpr atIndex, rest, found, listed, rfl⟩

theorem le_of_mem_numbered {start : Nat} {listing : α → List (List Nat × β)} {items : List α}
    {found : List Nat × β} (member : found ∈ numbered start listing items) :
    ∃ index inner, start ≤ index ∧ found = under index inner := by
  simp only [numbered, List.mem_flatMap, List.mem_map, Prod.exists] at member
  obtain ⟨item, index, listed, way, thing, _, equal⟩ := member
  exact ⟨index, (way, thing), (List.mk_mem_zipIdx_iff_le_and_getElem?_sub.mp listed).1, equal.symm⟩

/-- Ordered listings of the items make an ordered listing of the list. -/
theorem numbered_ordered {listing : α → List (List Nat × β)} {items : List α} (start : Nat)
    (each : ∀ item ∈ items, Ordered (listing item)) : Ordered (numbered start listing items) := by
  induction items generalizing start with
  | nil => exact .nil
  | cons item rest inductionHypothesis =>
      rw [numbered_cons, Ordered, List.pairwise_append]
      refine ⟨?_, inductionHypothesis (start + 1) fun other member =>
        each other (List.mem_cons_of_mem item member), ?_⟩
      · rw [List.pairwise_map]
        exact (each item (by simp)).imp fun earlier => (earlier_under_same start _ _).mpr earlier
      · -- The indices of the rest are all above the index of the first item.
        intro left leftMember right rightMember
        obtain ⟨inner, _, rfl⟩ := List.mem_map.mp leftMember
        obtain ⟨index, other, above, rfl⟩ := le_of_mem_numbered rightMember
        exact earlier_under_of_lt (by omega) inner other

/-- Without their ways, the things listed for a list are those of its items, one after another. -/
theorem map_snd_numbered (start : Nat) (listing : α → List (List Nat × β)) (items : List α) :
    (numbered start listing items).map (·.2) =
      items.flatMap fun item => (listing item).map (·.2) := by
  induction items generalizing start with
  | nil => rfl
  | cons item rest inductionHypothesis =>
      rw [numbered_cons, List.map_append, inductionHypothesis, List.flatMap_cons, List.map_map]
      rfl

/-- A choice among the things listed for a list is made item by item. -/
theorem filter_numbered (start : Nat) (listing : α → List (List Nat × β)) (items : List α)
    (chosen : β → Bool) :
    (numbered start listing items).filter (fun found => chosen found.2) =
      numbered start (fun item => (listing item).filter fun found => chosen found.2) items := by
  induction items generalizing start with
  | nil => rfl
  | cons item rest inductionHypothesis =>
      rw [numbered_cons, numbered_cons, List.filter_append, inductionHypothesis, List.filter_map]
      rfl

/-- Steps that give, for each item of a list, what is related to the things listed for the item give for
the whole list what is related to all things listed. -/
theorem mapM_numbered_related {ε γ : Type} {step : α → Except ε (List γ)}
    {listing : α → List (List Nat × β)} {related : β → γ → Prop} {items : List α} (start : Nat)
    (each : ∀ item ∈ items, ∃ results, step item = .ok results ∧
      List.Forall₂ (fun found result => related found.2 result) (listing item) results) :
    ∃ results, items.mapM step = .ok results ∧
      List.Forall₂ (fun found result => related found.2 result) (numbered start listing items)
        results.flatten := by
  have eachListed : ∀ item ∈ items, ∃ results, step item = .ok results ∧
      List.Forall₂ related ((listing item).map (·.2)) results := by
    intro item member
    simpa only [List.forall₂_map_left_iff] using each item member
  obtain ⟨results, stepped, allRelated⟩ := Sequence.mapM_flatten_related eachListed
  refine ⟨results, stepped, ?_⟩
  rw [← map_snd_numbered start, List.forall₂_map_left_iff] at allRelated
  exact allRelated

/-! ## Firsts of a listing -/

/-- What stands before a thing in an ordered listing is what comes earlier. -/
theorem Ordered.mem_before_iff {before after : List (List Nat × β)} {found other : List Nat × β}
    (ordered : Ordered (before ++ found :: after)) :
    other ∈ before ↔ other ∈ before ++ found :: after ∧ Earlier other found := by
  obtain ⟨_, fromHere, across⟩ := List.pairwise_append.mp ordered
  constructor
  · intro member
    exact ⟨List.mem_append_left _ member, across other member found List.mem_cons_self⟩
  · rintro ⟨member, isEarlier⟩
    rcases List.mem_append.mp member with inBefore | fromFound
    · exact inBefore
    · rcases List.mem_cons.mp fromFound with rfl | inAfter
      · exact absurd isEarlier (List.lt_irrefl _)
      · have isLater : Earlier found other := (List.pairwise_cons.mp fromHere).1 other inAfter
        exact absurd isLater (List.lt_asymm isEarlier)

/-- A search through an ordered listing finds the thing that passes at the least way. -/
theorem Ordered.find?_iff {listing : List (List Nat × β)} (ordered : Ordered listing)
    {test : β → Bool} {thing : β} :
    (listing.map (·.2)).find? test = some thing ↔
      ∃ way, (way, thing) ∈ listing ∧ test thing = true ∧
        ∀ before other, before < way → (before, other) ∈ listing → test other = false := by
  rw [List.find?_map, Option.map_eq_some_iff]
  constructor
  · rintro ⟨⟨way, _⟩, isFirst, rfl⟩
    obtain ⟨passes, before, after, rfl, others⟩ := List.find?_eq_some_iff_append.mp isFirst
    refine ⟨way, by simp, passes, ?_⟩
    intro place other isBefore listed
    simpa using others _ (ordered.mem_before_iff.mpr ⟨listed, isBefore⟩)
  · rintro ⟨way, listed, passes, others⟩
    refine ⟨(way, thing), ?_, rfl⟩
    obtain ⟨before, after, rfl⟩ := List.append_of_mem listed
    refine List.find?_eq_some_iff_append.mpr ⟨passes, before, after, rfl, ?_⟩
    intro other member
    obtain ⟨alsoListed, isEarlier⟩ := ordered.mem_before_iff.mp member
    simpa using others other.1 other.2 isEarlier alsoListed

/-! ## Choices in view of what comes before -/

/-- The items that are chosen in view of the items before them. -/
def chosenAfter (chosen : List α → α → Bool) (before : List α) : List α → List α
  | [] => []
  | item :: rest =>
      (if chosen before item then [item] else []) ++ chosenAfter chosen (before ++ [item]) rest

private theorem chosenAfter_sublist (chosen : List α → α → Bool) (before items : List α) :
    (chosenAfter chosen before items).Sublist items := by
  induction items generalizing before with
  | nil => exact .slnil
  | cons item rest inductionHypothesis =>
      rw [chosenAfter]
      split
      · exact (inductionHypothesis _).cons_cons item
      · exact (inductionHypothesis _).cons item

private theorem mem_chosenAfter_iff {chosen : List α → α → Bool} {before items : List α} {item : α} :
    item ∈ chosenAfter chosen before items ↔
      ∃ earlier later, items = earlier ++ item :: later ∧
        chosen (before ++ earlier) item = true := by
  induction items generalizing before with
  | nil => simp [chosenAfter]
  | cons first rest inductionHypothesis =>
      rw [chosenAfter, List.mem_append, inductionHypothesis]
      constructor
      · rintro (isFirst | ⟨earlier, later, rfl, isChosen⟩)
        · split at isFirst
          next isChosen =>
            cases List.mem_singleton.mp isFirst
            exact ⟨[], rest, rfl, by rwa [List.append_nil]⟩
          next => cases isFirst
        · exact ⟨first :: earlier, later, rfl, by rwa [List.append_assoc] at isChosen⟩
      · rintro ⟨earlier, later, split, isChosen⟩
        cases earlier with
        | nil =>
            cases split
            rw [List.append_nil] at isChosen
            simp [isChosen]
        | cons other earlier =>
            cases split
            exact .inr ⟨earlier, later, rfl, by rwa [List.append_assoc]⟩

private theorem chosenAfter_map (view : α → β) (chosen : List β → β → Bool) (before items : List α) :
    chosenAfter chosen (before.map view) (items.map view) =
      (chosenAfter (fun before item => chosen (before.map view) (view item)) before items).map
        view := by
  induction items generalizing before with
  | nil => rfl
  | cons item rest inductionHypothesis =>
      have step := inductionHypothesis (before ++ [item])
      rw [List.map_append, List.map_singleton] at step
      rw [List.map_cons, chosenAfter, chosenAfter, step, List.map_append]
      split <;> rfl

/-- What is chosen among listed things is an ordered listing again. -/
theorem Ordered.exists_chosen {listing : List (List Nat × β)} (ordered : Ordered listing)
    (chosen : List β → β → Bool) :
    ∃ kept, chosenAfter chosen [] (listing.map (·.2)) = kept.map (·.2) ∧ Ordered kept ∧
      ∀ found, found ∈ kept ↔ ∃ before after, listing = before ++ found :: after ∧
        chosen (before.map (·.2)) found.2 = true := by
  have mapped := chosenAfter_map (fun found : List Nat × β => found.2) chosen [] listing
  refine ⟨_, mapped, List.Pairwise.sublist (chosenAfter_sublist _ _ _) ordered, ?_⟩
  intro found
  rw [mem_chosenAfter_iff]
  rfl

/-- A thing is listed once exactly when it stands at one way. -/
theorem Ordered.count_eq_one_iff [DecidableEq β] {listing : List (List Nat × β)}
    (ordered : Ordered listing) {thing : β} :
    (listing.map (·.2)).count thing = 1 ↔ ∃! way, (way, thing) ∈ listing := by
  have count_eq : (listing.map (·.2)).count thing = (listing.filter (·.2 == thing)).length := by
    rw [List.count, List.countP_map, List.countP_eq_length_filter]
    rfl
  have mem_iff (found : List Nat × β) :
      found ∈ listing.filter (·.2 == thing) ↔ found ∈ listing ∧ found.2 = thing := by
    rw [List.mem_filter, beq_iff_eq]
  have chosenOrdered : Ordered (listing.filter (·.2 == thing)) := ordered.filter _
  rw [count_eq]
  constructor
  · intro isOne
    obtain ⟨⟨way, other⟩, isOnly⟩ := List.length_eq_one_iff.mp isOne
    have own := (mem_iff (way, other)).mp (by simp [isOnly])
    obtain ⟨listed, rfl⟩ := own
    refine ⟨way, listed, ?_⟩
    intro otherWay otherListed
    have isChosen := (mem_iff (otherWay, other)).mpr ⟨otherListed, rfl⟩
    rw [isOnly, List.mem_singleton] at isChosen
    exact congrArg Prod.fst isChosen
  · rintro ⟨way, listed, unique⟩
    have isOwn : ∀ found ∈ listing.filter (·.2 == thing), found = (way, thing) := by
      rintro ⟨otherWay, other⟩ isChosen
      obtain ⟨otherListed, rfl⟩ := (mem_iff _).mp isChosen
      rw [unique otherWay otherListed]
    cases chosen : listing.filter (·.2 == thing) with
    | nil =>
        have isChosen := (mem_iff (way, thing)).mpr ⟨listed, rfl⟩
        rw [chosen] at isChosen
        cases isChosen
    | cons first rest =>
        cases rest with
        | nil => rfl
        | cons second rest =>
            -- Two of them would stand at the same way, one before the other.
            rw [chosen] at isOwn chosenOrdered
            have firstOwn := isOwn first (by simp)
            have secondOwn := isOwn second (by simp)
            have isEarlier := (List.pairwise_cons.mp chosenOrdered).1 second (by simp)
            rw [firstOwn, secondOwn] at isEarlier
            exact absurd isEarlier (List.lt_irrefl _)

end Listing

/-- What holds of a value whenever it holds of the values right inside it holds of all values. -/
theorem Value.children_induction {motive : Value → Prop}
    (step : ∀ value, (∀ child ∈ value.children, motive child) → motive value) (value : Value) :
    motive value := by
  -- The weight of a value drops from the value to what is inside it.
  induction size : value.weight using Nat.strongRecOn generalizing value with
  | _ bound inductionHypothesis =>
      subst size
      refine step value fun child member => inductionHypothesis child.weight ?_ child rfl
      obtain ⟨before, after, split⟩ := List.append_of_mem member
      rw [weight_eq_children value, split, weightItems_append, weightItems]
      omega

end WorkflowLint
