import WorkflowLint.Proofs.ValueEquality
import WorkflowLint.Proofs.WorkflowGraph
import Mathlib.Data.List.Pairwise

/-!
Contract: what the stages after the schema report.

Each of the two stages goes through the document once and keeps what it has met.  Whether something
is reported depends on what comes before it alone: an id at its second declaration, and a reference
without a node where no reference before it is equal.  So each offender is reported once, in the order
of these places, and no offender is missing.
-/

set_option autoImplicit false

namespace WorkflowLint.Document

open Listing
open Value (reference)

/-! ## Ids that several nodes declare -/

/-- The node at an index declares an id. -/
def DeclaredAt (nodes : List Entries) (id : String) (index : Nat) : Prop :=
  ∃ node, nodes[index]? = some node ∧ DeclaresId node id

/-- At least two nodes declare the id. -/
def IsRepeated (nodes : List Entries) (id : String) : Prop :=
  ∃ first second, first < second ∧ DeclaredAt nodes id first ∧ DeclaredAt nodes id second

/-- The second declaration of an id is at an index. -/
def SecondAt (nodes : List Entries) (index : Nat) (id : String) : Prop :=
  DeclaredAt nodes id index ∧ ∃! first, first < index ∧ DeclaredAt nodes id first

/-- These are the ids that at least two nodes declare, each once, in the order of their second
declarations. -/
structure ListsRepeats (nodes : List Entries) (ids : List String) : Prop where
  exactly : ∀ id, id ∈ ids ↔ IsRepeated nodes id
  once : ids.Nodup
  inOrder : ∃ places : List Nat, places.Pairwise (· < ·) ∧ List.Forall₂ (SecondAt nodes) places ids

/-- The declared ids, each with the way to its node. -/
def idPlaces (nodes : List Entries) : List (List Nat × String) :=
  numbered 0 (fun node => (Value.field "id" node).text?.toList.map fun id => ([], id)) nodes

section Ids

variable {nodes : List Entries}

private theorem text?_field_iff {node : Entries} {id : String} :
    (Value.field "id" node).text? = some id ↔ DeclaresId node id := by
  unfold DeclaresId Value.field
  cases Value.lookupText "id" node with
  | none => simp [Value.text?]
  | some value => cases value <;> simp [Value.text?]

theorem mem_idPlaces_iff {way : List Nat} {id : String} :
    (way, id) ∈ idPlaces nodes ↔ ∃ index, way = [index] ∧ DeclaredAt nodes id index := by
  rw [idPlaces, mem_numbered]
  simp only [List.mem_map, Option.mem_toList, text?_field_iff, Prod.mk.injEq]
  constructor
  · rintro ⟨index, rest, node, rfl, atIndex, other, declares, rfl, rfl⟩
    exact ⟨index, rfl, node, atIndex, declares⟩
  · rintro ⟨index, rfl, node, atIndex, declares⟩
    exact ⟨index, [], node, rfl, atIndex, id, declares, rfl, rfl⟩

theorem idPlaces_ordered (nodes : List Entries) : Ordered (idPlaces nodes) := by
  apply numbered_ordered
  intro node _
  cases (Value.field "id" node).text? with
  | none => exact .nil
  | some id => exact List.pairwise_singleton _ _

theorem single_lt_iff {left right : Nat} : [left] < [right] ↔ left < right := by
  simp [List.cons_lt_cons_iff]

/-- The filled ids of nodes are the declared ones. -/
theorem filledIds_eq (eachNode : ∀ node ∈ nodes, IsNode node) :
    (nodes.map (Value.field "id")).filter (!·.isEmpty) =
      ((idPlaces nodes).map (·.2)).map .str := by
  rw [idPlaces, map_snd_numbered]
  induction nodes with
  | nil => rfl
  | cons node rest inductionHypothesis =>
      obtain ⟨isNode, others⟩ := List.forall_mem_cons.mp eachNode
      rw [List.map_cons, List.filter_cons, inductionHypothesis others, List.flatMap_cons,
        List.map_append]
      rcases isNode.id_cases with absent | ⟨id, declared, filled⟩
      · rw [Value.field_eq_of_absent absent]
        rfl
      · rw [Value.field_eq_of_found declared, Value.isEmpty_str filled]
        rfl

theorem isAmong_texts_iff {id : String} {ids : List String} :
    isAmong (.str id) (ids.map .str) = true ↔ id ∈ ids := by
  rw [isAmong_str_iff, List.mem_map]
  constructor
  · rintro ⟨other, listed, equal⟩
    cases equal
    exact listed
  · intro listed
    exact ⟨id, listed, rfl⟩

/-- The scan keeps an id where exactly one id before it is equal.  Found are at each time the ids that
were seen at least twice. -/
theorem repeatedIds_eq {seen found : List String} (ids : List String)
    (found_iff : ∀ id, id ∈ found ↔ 2 ≤ seen.count id) :
    repeatedIds (seen.map .str) (found.map .str) (ids.map .str) =
      (found ++ chosenAfter (fun before id => before.count id == 1) seen ids).map .str := by
  induction ids generalizing seen found with
  | nil => rw [chosenAfter, List.append_nil, List.map_nil, repeatedIds]
  | cons id rest inductionHypothesis =>
      have kept_iff : (isAmong (.str id) (seen.map .str) && !isAmong (.str id) (found.map .str)) =
          (seen.count id == 1) := by
        rw [Bool.eq_iff_iff, Bool.and_eq_true, Bool.not_eq_true', ← Bool.not_eq_true,
          isAmong_texts_iff, isAmong_texts_iff, found_iff, beq_iff_eq, ← List.count_pos_iff]
        omega
      have found_after : ∀ other,
          other ∈ found ++ (if seen.count id == 1 then [id] else []) ↔
            2 ≤ (seen ++ [id]).count other := by
        intro other
        rw [List.mem_append, found_iff, List.count_append]
        by_cases same : other = id
        · subst same
          rw [List.count_singleton_self]
          by_cases isOnce : seen.count other = 1
          · simp [isOnce]
          · simp only [beq_iff_eq, isOnce, if_false, List.not_mem_nil, or_false]
            omega
        · have apart : ¬ id = other := fun equal => same equal.symm
          split <;> simp [apart, same]
      have step := inductionHypothesis found_after
      rw [List.map_cons, repeatedIds, kept_iff, chosenAfter, ← List.append_assoc, ← step,
        List.map_append, List.map_append]
      split <;> simp

/-- Before the place of an id it is listed once exactly when one node before declares it. -/
theorem count_before_eq_one_iff {before after : List (List Nat × String)} {index : Nat}
    {id : String} (split : idPlaces nodes = before ++ ([index], id) :: after) :
    (before.map (·.2)).count id = 1 ↔ ∃! first, first < index ∧ DeclaredAt nodes id first := by
  have ordered : Ordered (before ++ ([index], id) :: after) := split ▸ idPlaces_ordered nodes
  have before_iff (way : List Nat) :
      (way, id) ∈ before ↔ ∃ first, way = [first] ∧ first < index ∧ DeclaredAt nodes id first := by
    rw [ordered.mem_before_iff, ← split, mem_idPlaces_iff]
    constructor
    · rintro ⟨⟨first, rfl, declared⟩, isEarlier⟩
      exact ⟨first, rfl, single_lt_iff.mp isEarlier, declared⟩
    · rintro ⟨first, rfl, isLess, declared⟩
      exact ⟨⟨first, rfl, declared⟩, single_lt_iff.mpr isLess⟩
  rw [Ordered.count_eq_one_iff (List.pairwise_append.mp ordered).1]
  simp only [before_iff]
  constructor
  · rintro ⟨_, ⟨first, rfl, isFirst⟩, unique⟩
    refine ⟨first, isFirst, ?_⟩
    intro other isOther
    simpa using unique [other] ⟨other, rfl, isOther⟩
  · rintro ⟨first, isFirst, unique⟩
    refine ⟨[first], ⟨first, rfl, isFirst⟩, ?_⟩
    rintro _ ⟨other, rfl, isOther⟩
    rw [unique other isOther]

/-- The scan keeps an id at an index exactly when its second declaration is there. -/
theorem exists_seconds (nodes : List Entries) :
    ∃ kept : List (Nat × String),
      chosenAfter (fun before id => before.count id == 1) [] ((idPlaces nodes).map (·.2)) =
        kept.map (·.2) ∧ kept.Pairwise (fun left right => left.1 < right.1) ∧
      ∀ index id, (index, id) ∈ kept ↔ SecondAt nodes index id := by
  obtain ⟨kept, equal, ordered, kept_iff⟩ := (idPlaces_ordered nodes).exists_chosen
    fun before id => before.count id == 1
  have second_iff (way : List Nat) (id : String) :
      (way, id) ∈ kept ↔ ∃ index, way = [index] ∧ SecondAt nodes index id := by
    simp only [kept_iff, beq_iff_eq]
    constructor
    · rintro ⟨before, after, split, isOnce⟩
      have listed : (way, id) ∈ idPlaces nodes := by simp [split]
      obtain ⟨index, rfl, declared⟩ := mem_idPlaces_iff.mp listed
      exact ⟨index, rfl, declared, (count_before_eq_one_iff split).mp isOnce⟩
    · rintro ⟨index, rfl, declared, onceBefore⟩
      obtain ⟨before, after, split⟩ :=
        List.append_of_mem (mem_idPlaces_iff.mpr ⟨index, rfl, declared⟩)
      exact ⟨before, after, split, (count_before_eq_one_iff split).mpr onceBefore⟩
  -- Each way is a single index.
  refine ⟨kept.map fun found => (found.1.headD 0, found.2), ?_, ?_, ?_⟩
  · rw [equal, List.map_map]
    rfl
  · refine List.pairwise_map.mpr (ordered.imp_of_mem ?_)
    rintro ⟨_, _⟩ ⟨_, _⟩ leftListed rightListed isEarlier
    obtain ⟨left, rfl, _⟩ := (second_iff _ _).mp leftListed
    obtain ⟨right, rfl, _⟩ := (second_iff _ _).mp rightListed
    exact single_lt_iff.mp isEarlier
  · intro index id
    rw [List.mem_map]
    constructor
    · rintro ⟨⟨_, _⟩, listed, equal⟩
      obtain ⟨own, rfl, isSecond⟩ := (second_iff _ _).mp listed
      cases equal
      exact isSecond
    · intro isSecond
      exact ⟨([index], id), (second_iff _ _).mpr ⟨index, rfl, isSecond⟩, rfl⟩

theorem SecondAt.unique {left right : Nat} {id : String} (leftSecond : SecondAt nodes left id)
    (rightSecond : SecondAt nodes right id) : ¬ left < right := by
  intro isLess
  obtain ⟨leftDeclared, first, ⟨firstLess, firstDeclared⟩, _⟩ := leftSecond
  obtain ⟨_, only, _, unique⟩ := rightSecond
  have isLeft := unique left ⟨isLess, leftDeclared⟩
  have isFirst := unique first ⟨by omega, firstDeclared⟩
  omega

/-- An id that two nodes declare has a second declaration. -/
theorem IsRepeated.exists_second {id : String} (isRepeated : IsRepeated nodes id) :
    ∃ index, SecondAt nodes index id := by
  classical
  obtain ⟨first, second, isLess, firstDeclared, secondDeclared⟩ := isRepeated
  have someDeclared : ∃ index, DeclaredAt nodes id index := ⟨first, firstDeclared⟩
  have someLater : ∃ index, Nat.find someDeclared < index ∧ DeclaredAt nodes id index :=
    ⟨second, (Nat.find_min' someDeclared firstDeclared).trans_lt isLess, secondDeclared⟩
  obtain ⟨isLater, declared⟩ := Nat.find_spec someLater
  refine ⟨Nat.find someLater, declared, Nat.find someDeclared,
    ⟨isLater, Nat.find_spec someDeclared⟩, ?_⟩
  rintro other ⟨isBefore, otherDeclared⟩
  have notLater := Nat.find_min someLater isBefore
  have notEarlier := Nat.find_min' someDeclared otherDeclared
  have notAbove : ¬ Nat.find someDeclared < other := fun above => notLater ⟨above, otherDeclared⟩
  omega

theorem SecondAt.isRepeated {index : Nat} {id : String} (isSecond : SecondAt nodes index id) :
    IsRepeated nodes id := by
  obtain ⟨declared, first, ⟨isLess, firstDeclared⟩, _⟩ := isSecond
  exact ⟨first, index, isLess, firstDeclared, declared⟩

/-- The second stage reports the repeated ids. -/
theorem checkIds_eq (eachNode : ∀ node ∈ nodes, IsNode node) :
    ∃ ids, ListsRepeats nodes ids ∧
      checkIds nodes = refuse (ids.map fun id => repeatedIssue (.str id)) := by
  obtain ⟨kept, equal, increasing, kept_iff⟩ := exists_seconds nodes
  refine ⟨kept.map (·.2), ⟨?_, ?_, kept.map (·.1), List.pairwise_map.mpr increasing, ?_⟩, ?_⟩
  · intro id
    simp only [List.mem_map, Prod.exists, exists_eq_right, kept_iff]
    constructor
    · rintro ⟨index, isSecond⟩
      exact isSecond.isRepeated
    · intro isRepeated
      exact isRepeated.exists_second
  · refine List.pairwise_map.mpr (increasing.imp_of_mem ?_)
    intro left right leftListed rightListed isLess sameId
    have leftSecond := (kept_iff left.1 left.2).mp leftListed
    rw [sameId] at leftSecond
    exact leftSecond.unique ((kept_iff right.1 right.2).mp rightListed) isLess
  · rw [List.forall₂_map_left_iff, List.forall₂_map_right_iff]
    exact List.forall₂_same.mpr fun found listed => (kept_iff found.1 found.2).mp listed
  · have scanned := @repeatedIds_eq [] [] ((idPlaces nodes).map (·.2)) (by simp)
    rw [equal, List.map_nil, List.nil_append] at scanned
    rw [checkIds, filledIds_eq eachNode, scanned, List.map_map]
    rfl

end Ids

/-! ## References without a node -/

/-- Connections refer to something at a place: a source is named by its key, and a link names its
target where it stands. -/
inductive RefersAt (connections : Entries) : List Nat → Value → Prop where
  | source {index : Nat} {key channels : Value}
      (atIndex : connections[index]? = some (key, channels)) : RefersAt connections [index] key
  | link {place : List Nat} {site : LinkSite} (stands : StandsAt connections place site)
      (filled : (reference site.link).isEmpty = false) :
      RefersAt connections place (reference site.link)

/-- The reference at a place is the first of those that equal it. -/
def FirstAt (connections : Entries) (place : List Nat) (ref : Value) : Prop :=
  RefersAt connections place ref ∧
    ∀ before other, before < place → RefersAt connections before other → ref.same other = false

/-- These are the references that are not the label of a node, one for each that differs from the
others, in the order in which they are first met. -/
structure ListsOrphans (nodes : List Entries) (connections : Entries) (refs : List Value) : Prop where
  exactly : ∀ place ref, RefersAt connections place ref → ¬ IsLabelOf nodes ref →
    ∃! listed, listed ∈ refs ∧ ref.same listed = true
  once : refs.Pairwise fun earlier later => later.same earlier = false
  inOrder : ∃ places : List (List Nat), places.Pairwise (· < ·) ∧
    List.Forall₂ (fun place ref => FirstAt connections place ref ∧ ¬ IsLabelOf nodes ref) places refs

/-- The references under an entry of connections: its key, then those of its links. -/
def entryReferences (entry : Value × Value) : List (List Nat × Value) :=
  ([], entry.1) :: (sourceSites entry).map fun found => (found.1, reference found.2.link)

/-- The references of connections, each with its place. -/
def placedReferences (connections : Entries) : List (List Nat × Value) :=
  numbered 0 entryReferences connections

section References

variable {connections : Entries}

theorem mem_placedReferences_iff {place : List Nat} {ref : Value} :
    (place, ref) ∈ placedReferences connections ↔ RefersAt connections place ref := by
  rw [placedReferences, mem_numbered]
  constructor
  · rintro ⟨index, rest, entry, rfl, atIndex, listed⟩
    rcases List.mem_cons.mp listed with isKey | underLinks
    · cases isKey
      exact .source atIndex
    · obtain ⟨⟨way, site⟩, found, equal⟩ := List.mem_map.mp underLinks
      cases equal
      obtain ⟨stands, filled⟩ :=
        mem_linkSites_iff.mp (mem_numbered.mpr ⟨index, _, entry, rfl, atIndex, found⟩)
      exact .link stands filled
  · intro refers
    cases refers with
    | @source index key channels atIndex =>
        exact ⟨index, [], (ref, channels), rfl, atIndex, List.mem_cons_self⟩
    | @link place site stands filled =>
        obtain ⟨index, rest, entry, rfl, atIndex, found⟩ :=
          mem_numbered.mp (mem_linkSites_iff.mpr ⟨stands, filled⟩)
        exact ⟨index, rest, entry, rfl, atIndex,
          List.mem_cons_of_mem _ (List.mem_map.mpr ⟨(rest, site), found, rfl⟩)⟩

theorem placedReferences_ordered (connections : Entries) : Ordered (placedReferences connections) := by
  apply numbered_ordered
  intro entry _
  refine List.pairwise_cons.mpr ⟨?_, List.pairwise_map.mpr (sourceSites_ordered entry)⟩
  intro later listed
  obtain ⟨⟨way, site⟩, found, rfl⟩ := List.mem_map.mp listed
  unfold sourceSites at found
  split at found
  next =>
    obtain ⟨index, inner, _, equal⟩ := le_of_mem_numbered found
    cases equal
    exact List.nil_lt_cons _ _
  next => cases found

theorem map_snd_placedReferences (connections : Entries) :
    (placedReferences connections).map (·.2) = references connections := by
  rw [placedReferences, map_snd_numbered, references]
  refine List.flatMap_congr ?_
  rintro ⟨key, channels⟩ _
  rw [entryReferences, List.map_cons, List.map_map]
  congr 1
  cases channels with
  | map entries =>
      have linked := congrArg (List.map fun site : LinkSite => reference site.link)
        (map_snd_numbered 0 (channelSites key) entries)
      rw [List.map_map, List.map_flatMap] at linked
      refine linked.trans (List.flatMap_congr fun channel _ => ?_)
      show _ = linkReferences channel.2
      rw [linkReferences_eq, channelSites, List.map_map, List.map_map]
      rfl
  | _ => rfl

theorem isAmong_append (value other : Value) (values : List Value) :
    isAmong value (values ++ [other]) = (isAmong value values || value.same other) := by
  simp [isAmong]

/-- What equals a value that equals one of some values equals one of them too. -/
theorem isAmong_of_same {value other : Value} {values : List Value} (isJson : value.IsJson)
    (same : value.same other = true) (among : isAmong other values = true) :
    isAmong value values = true := by
  rw [isAmong, List.any_eq_true] at among ⊢
  obtain ⟨listed, member, otherSame⟩ := among
  exact ⟨listed, member, isJson.same_trans same otherSame⟩

/-- What equals a known reference is known. -/
theorem not_same_of_isKnown {known : List Value} {value other : Value}
    (unknown : isKnown known value = false) (isKnownOther : isKnown known other = true) :
    value.same other = false := by
  obtain ⟨text, rfl, listed⟩ := isKnown_iff.mp isKnownOther
  rw [Bool.eq_false_iff]
  intro same
  rw [Value.same_right_str_iff.mp same, isKnownOther] at unknown
  cases unknown

/-- The scan keeps a reference that is not known where no reference before it is equal.  A reference
that is not known equals a found one exactly when it equals one that was met. -/
theorem orphans_eq {known seen found refs : List Value} (each : ∀ ref ∈ refs, ref.IsJson)
    (found_iff : ∀ ref, ref.IsJson → isKnown known ref = false →
      (isAmong ref found = true ↔ isAmong ref seen = true)) :
    orphans known found refs =
      found ++ chosenAfter (fun before ref => !isKnown known ref && !isAmong ref before) seen
        refs := by
  induction refs generalizing seen found with
  | nil => rw [chosenAfter, List.append_nil, orphans]
  | cons ref rest inductionHypothesis =>
      obtain ⟨isJson, others⟩ := List.forall_mem_cons.mp each
      rw [orphans, chosenAfter]
      cases isKnownRef : isKnown known ref with
      | true =>
          apply inductionHypothesis others
          intro other otherJson unknown
          rw [isAmong_append, not_same_of_isKnown unknown isKnownRef, Bool.or_false]
          exact found_iff other otherJson unknown
      | false =>
          have ref_iff := found_iff ref isJson isKnownRef
          cases met : isAmong ref seen with
          | true =>
              have isFound := ref_iff.mpr met
              rw [isFound]
              apply inductionHypothesis others
              intro other otherJson unknown
              rw [isAmong_append, Bool.or_eq_true, found_iff other otherJson unknown]
              constructor
              · exact .inl
              · rintro (amongSeen | same)
                · exact amongSeen
                · exact isAmong_of_same otherJson same met
          | false =>
              have notFound : isAmong ref found = false := by
                rw [Bool.eq_false_iff, Ne, ref_iff, met]
                decide
              have found_after : ∀ other, other.IsJson → isKnown known other = false →
                  (isAmong other (found ++ [ref]) = true ↔ isAmong other (seen ++ [ref]) = true) := by
                intro other otherJson unknown
                rw [isAmong_append, isAmong_append, Bool.or_eq_true, Bool.or_eq_true,
                  found_iff other otherJson unknown]
              rw [notFound]
              simpa using inductionHypothesis others found_after

/-- Whatever is referred to equals a reference that is the first of its kind. -/
theorem RefersAt.exists_first {place : List Nat} {ref : Value} (refers : RefersAt connections place ref)
    (isJson : ref.IsJson) :
    ∃ firstPlace first, FirstAt connections firstPlace first ∧ ref.same first = true := by
  have ordered := placedReferences_ordered connections
  cases search : ((placedReferences connections).map (·.2)).find? (ref.same ·) with
  | none =>
      have listed : ref ∈ (placedReferences connections).map (·.2) :=
        List.mem_map.mpr ⟨(place, ref), mem_placedReferences_iff.mpr refers, rfl⟩
      exact absurd isJson.same_refl (List.find?_eq_none.mp search ref listed)
  | some first =>
      obtain ⟨firstPlace, listed, same, noneBefore⟩ := ordered.find?_iff.mp search
      refine ⟨firstPlace, first, ⟨mem_placedReferences_iff.mp listed, ?_⟩, same⟩
      intro before other isBefore otherRefers
      rw [Bool.eq_false_iff]
      intro firstSame
      have notSame := noneBefore before other isBefore (mem_placedReferences_iff.mpr otherRefers)
      rw [isJson.same_trans same firstSame] at notSame
      cases notSame

/-- The scan keeps the references that are the first of their kind and not known. -/
theorem exists_firsts (connections : Entries) (known : List Value) :
    ∃ kept, chosenAfter (fun before ref => !isKnown known ref && !isAmong ref before) []
        (references connections) = kept.map (·.2) ∧ Ordered kept ∧
      ∀ place ref, (place, ref) ∈ kept ↔
        FirstAt connections place ref ∧ isKnown known ref = false := by
  obtain ⟨kept, equal, ordered, kept_iff⟩ := (placedReferences_ordered connections).exists_chosen
    fun before ref => !isKnown known ref && !isAmong ref before
  rw [map_snd_placedReferences] at equal
  refine ⟨kept, equal, ordered, ?_⟩
  intro place ref
  -- Before the place of a reference stand the references at earlier places.
  have notAmong_iff {before after : List (List Nat × Value)}
      (split : placedReferences connections = before ++ (place, ref) :: after) :
      isAmong ref (before.map (·.2)) = false ↔
        ∀ earlier other, earlier < place → RefersAt connections earlier other →
          ref.same other = false := by
    have listing : Ordered (before ++ (place, ref) :: after) :=
      split ▸ placedReferences_ordered connections
    simp only [isAmong, List.any_eq_false, List.mem_map, Prod.exists, exists_eq_right,
      listing.mem_before_iff, ← split, mem_placedReferences_iff, Bool.not_eq_true]
    constructor
    · intro each earlier other isBefore refers
      exact each other ⟨earlier, refers, isBefore⟩
    · rintro each other ⟨earlier, refers, isBefore⟩
      exact each earlier other isBefore refers
  rw [kept_iff]
  simp only [Bool.and_eq_true, Bool.not_eq_true']
  constructor
  · rintro ⟨before, after, split, unknown, fresh⟩
    have listed : (place, ref) ∈ placedReferences connections := by simp [split]
    exact ⟨⟨mem_placedReferences_iff.mp listed, (notAmong_iff split).mp fresh⟩, unknown⟩
  · rintro ⟨⟨refers, isFirst⟩, unknown⟩
    obtain ⟨before, after, split⟩ := List.append_of_mem (mem_placedReferences_iff.mpr refers)
    exact ⟨before, after, split, unknown, (notAmong_iff split).mpr isFirst⟩

theorem RefersAt.isSpelled {place : List Nat} {ref : Value} (refers : RefersAt connections place ref)
    (isSpelled : (Value.map connections).IsSpelled) : ref.IsSpelled := by
  cases isSpelled with
  | map keys _ values =>
      cases refers with
      | source atIndex =>
          obtain ⟨name, isText⟩ := keys _ (List.mem_of_getElem? atIndex)
          rw [show ref = .str name from isText]
          exact .str name
      | link stands filled =>
          cases stands with
          | intro source under stands =>
              have channels := values _ (List.mem_of_getElem? source)
              have channel := channels.of_mem (List.mem_of_getElem? under)
              exact (stands.isSpelled channel).field "node"

/-- Of values of which none equals an earlier one, no two are equal. -/
theorem eq_of_same {refs : List Value}
    (once : refs.Pairwise fun earlier later => later.same earlier = false) {left right : Value}
    (leftListed : left ∈ refs) (rightListed : right ∈ refs) (same : left.same right = true)
    (reversed : right.same left = true) : left = right := by
  have symmetric : Std.Symm fun left right : Value =>
      left.same right = true → right.same left = true → left = right :=
    ⟨fun _ _ equal same reversed => (equal reversed same).symm⟩
  have apart : refs.Pairwise fun left right =>
      left.same right = true → right.same left = true → left = right := by
    refine once.imp ?_
    intro earlier later notSame _ isSame
    rw [notSame] at isSame
    cases isSame
  exact apart.forall_of_forall (fun _ _ _ _ => rfl) leftListed rightListed same reversed

/-- The references that are the first of their kind and not the label of a node, in the order of their
places, are those to report. -/
theorem listsOrphans_of_firsts {nodes : List Entries} {known : List Value}
    {kept : List (List Nat × Value)} (isSpelled : (Value.map connections).IsSpelled)
    (label_iff : ∀ ref, isKnown known ref = false ↔ ¬ IsLabelOf nodes ref) (ordered : Ordered kept)
    (kept_iff : ∀ place ref, (place, ref) ∈ kept ↔
      FirstAt connections place ref ∧ isKnown known ref = false) :
    ListsOrphans nodes connections (kept.map (·.2)) := by
  have first_of_mem : ∀ found ∈ kept,
      FirstAt connections found.1 found.2 ∧ ¬ IsLabelOf nodes found.2 := by
    intro found listed
    rw [← label_iff]
    exact (kept_iff found.1 found.2).mp listed
  have once : (kept.map (·.2)).Pairwise fun earlier later => later.same earlier = false := by
    refine List.pairwise_map.mpr (ordered.imp_of_mem ?_)
    intro left right leftListed rightListed isEarlier
    exact (first_of_mem right rightListed).1.2 left.1 left.2 isEarlier
      (first_of_mem left leftListed).1.1
  refine ⟨?_, once, kept.map (·.1), ?_, ?_⟩
  · intro place ref refers isOrphan
    have refSpelled := refers.isSpelled isSpelled
    have unknown := (label_iff ref).mpr isOrphan
    obtain ⟨firstPlace, first, isFirst, same⟩ := refers.exists_first refSpelled.isJson
    have firstUnknown : isKnown known first = false := by
      rw [Bool.eq_false_iff]
      intro isKnownFirst
      rw [not_same_of_isKnown unknown isKnownFirst] at same
      cases same
    have firstListed : first ∈ kept.map (·.2) :=
      List.mem_map.mpr ⟨(firstPlace, first), (kept_iff _ _).mpr ⟨isFirst, firstUnknown⟩, rfl⟩
    refine ⟨first, ⟨firstListed, same⟩, ?_⟩
    rintro other ⟨otherListed, otherSame⟩
    obtain ⟨found, foundListed, rfl⟩ := List.mem_map.mp otherListed
    have otherSpelled := (first_of_mem found foundListed).1.1.isSpelled isSpelled
    have firstSpelled := isFirst.1.isSpelled isSpelled
    -- Both equal the reference, so they equal each other.
    have forward := firstSpelled.isJson.same_trans (refSpelled.same_symm firstSpelled same) otherSame
    exact eq_of_same once otherListed firstListed (firstSpelled.same_symm otherSpelled forward) forward
  · exact List.pairwise_map.mpr ordered
  · rw [List.forall₂_map_left_iff, List.forall₂_map_right_iff]
    exact List.forall₂_same.mpr first_of_mem

/-- The third stage reports the references without a node. -/
theorem checkReferences_eq {nodes : List Entries} (eachNode : ∀ node ∈ nodes, IsNode node)
    (isSpelled : (Value.map connections).IsSpelled) :
    ∃ refs, ListsOrphans nodes connections refs ∧
      checkReferences nodes (.map connections) = refuse (refs.map orphanIssue) := by
  obtain ⟨known, labels, known_iff⟩ := labelsOf_eq_ok eachNode
  obtain ⟨kept, equal, ordered, kept_iff⟩ := exists_firsts connections known
  have label_iff (ref : Value) : isKnown known ref = false ↔ ¬ IsLabelOf nodes ref := by
    rw [← Bool.not_eq_true, isKnown_iff]
    simp only [known_iff, IsLabelOf]
  have each : ∀ ref ∈ references connections, ref.IsJson := by
    intro ref member
    rw [← map_snd_placedReferences, List.mem_map] at member
    obtain ⟨found, listed, rfl⟩ := member
    exact ((mem_placedReferences_iff.mp listed).isSpelled isSpelled).isJson
  have scanned := @orphans_eq known [] [] _ each fun _ _ _ => Iff.rfl
  rw [List.nil_append, equal] at scanned
  refine ⟨kept.map (·.2), listsOrphans_of_firsts isSpelled label_iff ordered kept_iff, ?_⟩
  rw [checkReferences, ← scanned]
  split
  next empty =>
    have none : connections = [] := by simpa [Value.isEmpty] using empty
    rw [none]
    rfl
  next =>
    rw [labels]
    rfl

end References

/-! ## All stages -/

/-- A JSON document that meets the schema is checked for repeated ids and then for references without
a node.  The first of these stages that has something to report reports exactly that: every offender
once, in the order in which the document makes it one.  A document without offenders is accepted. -/
theorem stages_report_exactly {text : List Char} {document : Value}
    (decoded : Json.decode text = .ok document)
    (schemaMet : checkSchema Schema.workflow document = .ok ()) :
    ∃ entries nodes connections, document = .map entries ∧ HasShape entries nodes connections ∧
      ((∃ id, IsRepeated nodes id) →
        ∃ id ids, ListsRepeats nodes (id :: ids) ∧
          check Schema.workflow document =
            .error (.refused (.invalid (repeatedIssue (.str id))
              (ids.map fun id => repeatedIssue (.str id))))) ∧
      ((¬ ∃ id, IsRepeated nodes id) →
        (∃ place ref, RefersAt connections place ref ∧ ¬ IsLabelOf nodes ref) →
        ∃ ref refs, ListsOrphans nodes connections (ref :: refs) ∧
          check Schema.workflow document =
            .error (.refused (.invalid (orphanIssue ref) (refs.map orphanIssue)))) ∧
      ((¬ ∃ id, IsRepeated nodes id) →
        (∀ place ref, RefersAt connections place ref → IsLabelOf nodes ref) →
        check Schema.workflow document = .ok ⟨entries, nodes⟩) := by
  obtain ⟨entries, rfl, nodes, connections, shape⟩ :=
    (Schema.meets_workflow document).mp (checkSchema_eq_ok_iff.mp schemaMet)
  have isSpelled : (Value.map connections).IsSpelled := by
    rw [← Value.field_eq_of_found shape.connectionsField]
    exact (Value.isSpelled_of_decode decoded).field "connections"
  obtain ⟨ids, listsIds, idsChecked⟩ := checkIds_eq shape.eachNode
  obtain ⟨refs, listsRefs, refsChecked⟩ := checkReferences_eq shape.eachNode isSpelled
  have staged := check_of_shape shape
  rw [idsChecked, refsChecked] at staged
  have noIds : (¬ ∃ id, IsRepeated nodes id) → ids = [] := by
    intro noneRepeated
    rw [List.eq_nil_iff_forall_not_mem]
    intro id listed
    exact noneRepeated ⟨id, (listsIds.exactly id).mp listed⟩
  refine ⟨entries, nodes, connections, rfl, shape, ?_, ?_, ?_⟩
  · rintro ⟨id, isRepeated⟩
    have listed := (listsIds.exactly id).mpr isRepeated
    cases ids with
    | nil => cases listed
    | cons first others => exact ⟨first, others, listsIds, staged⟩
  · rintro noneRepeated ⟨place, ref, refers, isOrphan⟩
    obtain ⟨listed, ⟨member, _⟩, _⟩ := listsRefs.exactly place ref refers isOrphan
    rw [noIds noneRepeated] at staged
    cases refs with
    | nil => cases member
    | cons first others => exact ⟨first, others, listsRefs, staged⟩
  · intro noneRepeated allKnown
    have noRefs : refs = [] := by
      obtain ⟨places, _, firsts⟩ := listsRefs.inOrder
      cases firsts with
      | nil => rfl
      | cons first _ => exact absurd (allKnown _ _ first.1.1) first.2
    rw [noIds noneRepeated, noRefs] at staged
    exact staged

/-- The places and messages of the issues with which a document is refused. -/
def reportOf (result : Except Rejection Accepted) : List (String × String) :=
  match result with
  | .error (.refused refusal) => refusal.issues.map fun issue => (issue.path, issue.message)
  | _ => []

/-- A text is decoded, meets the schema and has a report when all stages evaluate to it. -/
theorem exists_reported {text : List Char} {report : List (String × String)}
    (evaluated : ((Json.decode text).toOption.map fun document =>
      ((checkSchema Schema.workflow document).toOption,
        reportOf (check Schema.workflow document))) = some (some (), report)) :
    ∃ document, Json.decode text = .ok document ∧
      checkSchema Schema.workflow document = .ok () ∧
      reportOf (check Schema.workflow document) = report := by
  obtain ⟨document, isSome, seen⟩ := Option.map_eq_some_iff.mp evaluated
  rw [Prod.mk.injEq, Sequence.toOption_eq_some_iff] at seen
  exact ⟨document, Sequence.toOption_eq_some_iff.mp isSome, seen.1, seen.2⟩

/-- A link that refers to a value. -/
def linkTo (ref : Value) : Value := .record [("node", ref)]

/-- References to texts and mappings under two sources, some of them met again as equal values. -/
def lostReferences : List Char :=
  Json.compact (workflowDocument [[("name", "A"), ("type", "set")]]
    [("A", .record [("main", .list
        [linkTo (.str "G"), .list [linkTo (.record [("k", .int 1)]), linkTo (.str "")]])]),
      ("L", .record [("main", .list
        [linkTo (.record [("k", .float 1.0)]), linkTo (.list [.str "x", .bool true]),
          linkTo (.str "G"), linkTo (.list [.str "x", .int 1])])])])

theorem stages_report_exactly_lost :
    ∃ document entries nodes connections ref refs,
      Json.decode lostReferences = .ok document ∧
      checkSchema Schema.workflow document = .ok () ∧
      document = .map entries ∧ HasShape entries nodes connections ∧
      ListsOrphans nodes connections (ref :: refs) ∧
      check Schema.workflow document =
        .error (.refused (.invalid (orphanIssue ref) (refs.map orphanIssue))) ∧
      (ref :: refs).map (fun ref => (orphanIssue ref).message) =
        ["Orphaned connection reference: \"G\"", "Orphaned connection reference: \"\x7b'k': 1\x7d\"",
          "Orphaned connection reference: \"L\"",
          "Orphaned connection reference: \"['x', True]\""] := by
  obtain ⟨document, decoded, schemaMet, reported⟩ := @exists_reported lostReferences
    [("connections", "Orphaned connection reference: \"G\""),
      ("connections", "Orphaned connection reference: \"\x7b'k': 1\x7d\""),
      ("connections", "Orphaned connection reference: \"L\""),
      ("connections", "Orphaned connection reference: \"['x', True]\"")]
    (by decide +kernel)
  obtain ⟨entries, nodes, connections, isMap, shape, ofRepeats, ofOrphans, accepted⟩ :=
    stages_report_exactly decoded schemaMet
  have noneRepeated : ¬ ∃ id, IsRepeated nodes id := by
    intro someRepeated
    obtain ⟨id, ids, _, refused⟩ := ofRepeats someRepeated
    rw [refused] at reported
    simp [reportOf, Refusal.issues, repeatedIssue] at reported
  have someOrphan : ∃ place ref, RefersAt connections place ref ∧ ¬ IsLabelOf nodes ref := by
    by_contra noOrphan
    rw [accepted noneRepeated fun place ref refers =>
      not_not.mp fun isOrphan => noOrphan ⟨place, ref, refers, isOrphan⟩] at reported
    cases reported
  obtain ⟨ref, refs, lists, refused⟩ := ofOrphans noneRepeated someOrphan
  refine ⟨document, entries, nodes, connections, ref, refs, decoded, schemaMet, isMap, shape, lists,
    refused, ?_⟩
  rw [refused] at reported
  have messages := congrArg (List.map Prod.snd) reported
  simp only [reportOf, Refusal.issues, ← List.map_cons, List.map_map] at messages
  exact messages

/-- Two references to what is not a number. -/
def notNumbers : List Char :=
  Json.compact (workflowDocument [[("name", "A"), ("type", "set")]]
    [("A", .record [("main", .list [linkTo (.float (0.0 / 0.0)), linkTo (.float (0.0 / 0.0))])])])

/-- What is not a number is unequal to itself as a number, and yet two references to it are one: they
are reported once. -/
theorem notNumbers_reported_once :
    ∃ document, Json.decode notNumbers = .ok document ∧
      checkSchema Schema.workflow document = .ok () ∧
      ((0.0 / 0.0 : Float) == 0.0 / 0.0) = false ∧
      reportOf (check Schema.workflow document) =
        [("connections", "Orphaned connection reference: \"nan\"")] := by
  obtain ⟨document, decoded, schemaMet, reported⟩ := @exists_reported notNumbers
    [("connections", "Orphaned connection reference: \"nan\"")] (by decide +kernel)
  exact ⟨document, decoded, schemaMet, by decide +kernel, reported⟩

end WorkflowLint.Document
