import WorkflowLint.Proofs.MappingKeys
import WorkflowLint.Proofs.Sequence
import WorkflowLint.Yaml.Meaning

/-!
Contract: the keys of the mappings that YAML texts spell.

A key is made from a node that is no collection, so it can be a key.  Entries are put in one after
another, where an equal key keeps its entry, so the keys of a mapping are distinct.
-/

set_option autoImplicit false

namespace WorkflowLint

private theorem Value.areKeyed_ofPairs {pairs : List (Value × Value)}
    (each : ∀ pair ∈ pairs, pair.1.isKey = true ∧ pair.2.IsKeyed) : AreKeyed (ofPairs pairs) := by
  refine List.foldlRecOn (motive := AreKeyed) pairs _ areKeyed_nil ?_
  intro entries entriesKeyed pair member
  obtain ⟨isKey, isKeyed⟩ := each pair member
  exact entriesKeyed.insert isKey isKeyed

namespace Yaml

section Outcomes

variable {α β : Type}

private theorem here_eq_ok {step : Except Fault α} {value : α} (made : here step = .ok value) :
    step = .ok value := by
  cases step with
  | ok own =>
      cases made
      rfl
  | error fault => cases made

theorem below_eq_ok {outcome : Outcome α} {value : α} (made : below outcome = .ok value) :
    outcome = .ok value := by
  cases outcome with
  | ok own =>
      cases made
      rfl
  | error deep => cases made

theorem both_eq_ok {left : Outcome α} {right : Outcome β} {pair : α × β}
    (made : both left right = .ok pair) : left = .ok pair.1 ∧ right = .ok pair.2 := by
  cases left with
  | error deep => cases right <;> cases made
  | ok first =>
      cases right with
      | error deep => cases made
      | ok second =>
          cases made
          exact ⟨rfl, rfl⟩

private theorem mem_of_every {items : List (Outcome α)} {values : List α}
    (made : every items = .ok values) :
    ∀ value ∈ values, .ok value ∈ items := by
  induction items generalizing values with
  | nil =>
      cases made
      simp
  | cons first rest inductionHypothesis =>
      rw [every] at made
      split at made
      next value others isBoth =>
        cases made
        obtain ⟨own, restMade⟩ := both_eq_ok isBoth
        refine List.forall_mem_cons.mpr ⟨?_, fun other member => ?_⟩
        · rw [own]
          exact List.mem_cons_self
        · exact List.mem_cons_of_mem _ (inductionHypothesis restMade other member)
      next => cases made

end Outcomes

/-- A value that can be a key and is no mapping. -/
def IsSingle (value : Value) : Prop := value.isKey = true ∧ value.isMap = false

theorem isSingle_of_bind {α : Type} {step : Except Fault α} {make : α → Value} {value : Value}
    (single : ∀ content, IsSingle (make content))
    (made : (step >>= fun content => pure (make content)) = .ok value) : IsSingle value := by
  obtain ⟨content, _, equal⟩ := Sequence.bind_eq_ok_iff.mp made
  cases equal
  exact single content

private theorem scalarValue_isSingle {tag : Tag} {node : Node} {value : Value}
    (made : scalarValue tag node = .ok value) : IsSingle value := by
  unfold scalarValue at made
  obtain ⟨text, _, made⟩ := Sequence.bind_eq_ok_iff.mp made
  cases tag with
  | null =>
      cases made
      exact ⟨rfl, rfl⟩
  | truth => exact isSingle_of_bind (fun _ => ⟨rfl, rfl⟩) made
  | integer => exact isSingle_of_bind (fun _ => ⟨rfl, rfl⟩) made
  | number => exact isSingle_of_bind (fun _ => ⟨rfl, rfl⟩) made
  | binary => exact isSingle_of_bind (fun _ => ⟨rfl, rfl⟩) made
  | timestamp =>
      cases node with
      | scalar _ _ => exact isSingle_of_bind (fun _ => ⟨rfl, rfl⟩) made
      | _ => cases made
  | text =>
      cases made
      exact ⟨rfl, rfl⟩
  | _ => cases made

/-- What the value of a node is good for: its mappings have distinct keys, and it can be a key when
the node is no collection. -/
structure IsMadeFrom (node : Node) (value : Value) : Prop where
  isKeyed : value.IsKeyed
  isKey : node.tag.isCollection = false → value.isKey = true

private theorem entries_areKeyed {fuel : Nat}
    (each : ∀ {node : Node} {value : Value}, valueOf fuel node = .ok value → IsMadeFrom node value)
    {flat : List (Node × Node)} {pairs : List (Value × Value)}
    (made : every (flat.map fun entry =>
      both (if entry.1.tag.isCollection then misfit else valueOf fuel entry.1)
        (valueOf fuel entry.2)) = .ok pairs) : Value.AreKeyed (Value.ofPairs pairs) := by
  refine Value.areKeyed_ofPairs fun pair member => ?_
  obtain ⟨entry, _, isPair⟩ := List.mem_map.mp (mem_of_every made pair member)
  obtain ⟨keyMade, valueMade⟩ := both_eq_ok isPair
  refine ⟨?_, (each valueMade).isKeyed⟩
  split at keyMade
  next => cases keyMade
  next single => exact (each keyMade).isKey (Bool.eq_false_iff.mpr single)

theorem isKeyed_of_items {outcome : Outcome (List Value)} {value : Value}
    (made : below (outcome >>= fun items => pure (Value.list items)) = .ok value) :
    value.IsKeyed := by
  obtain ⟨items, _, equal⟩ := Sequence.bind_eq_ok_iff.mp (below_eq_ok made)
  cases equal
  exact .other rfl

private theorem valueOf_isMadeFrom (fuel : Nat) : ∀ {node : Node} {value : Value},
    valueOf fuel node = .ok value → IsMadeFrom node value := by
  induction fuel with
  | zero =>
      intro node value made
      cases made
  | succ fuel inductionHypothesis =>
      intro node value made
      by_cases single : node.tag.isCollection = false
      · have scalar : valueOf (fuel + 1) node = here (scalarValue node.tag node) := by
          unfold valueOf
          cases isTag : node.tag <;> simp_all [Tag.isCollection]
        rw [scalar] at made
        obtain ⟨isKey, noMap⟩ := scalarValue_isSingle (here_eq_ok made)
        exact ⟨.other noMap, fun _ => isKey⟩
      · refine ⟨?_, fun isSingle => absurd isSingle single⟩
        unfold valueOf at made
        -- Of the collections only a mapping has entries of its own.
        cases isTag : node.tag with
        | mapping =>
            simp only [isTag] at made
            obtain ⟨entries, isEntries, equal⟩ := Sequence.bind_eq_ok_iff.mp (below_eq_ok made)
            cases equal
            cases node with
            | mapping _ nodes =>
                obtain ⟨flat, _, filled⟩ := Sequence.bind_eq_ok_iff.mp isEntries
                obtain ⟨pairs, isPairs, equal⟩ := Sequence.bind_eq_ok_iff.mp filled
                cases equal
                exact Value.isKeyed_map_iff.mpr (entries_areKeyed inductionHypothesis isPairs)
            | _ => cases isEntries
        | sequence =>
            simp only [isTag] at made
            cases node with
            | sequence _ items => exact isKeyed_of_items made
            | _ => cases below_eq_ok made
        | set =>
            simp only [isTag] at made
            obtain ⟨entries, _, equal⟩ := Sequence.bind_eq_ok_iff.mp (below_eq_ok made)
            cases equal
            exact .other rfl
        | orderedMap =>
            simp only [isTag] at made
            cases node with
            | sequence _ items => exact isKeyed_of_items made
            | _ => cases below_eq_ok made
        | pairs =>
            simp only [isTag] at made
            cases node with
            | sequence _ items => exact isKeyed_of_items made
            | _ => cases below_eq_ok made
        | _ =>
            rw [isTag] at single
            exact absurd rfl single

/-- The mappings that a YAML text spells have distinct keys. -/
theorem isKeyed_of_decode {dialect : Dialect} {text : List Char} {value : Value}
    (decoded : decode dialect text = .ok value) : value.IsKeyed := by
  unfold decode at decoded
  obtain ⟨found, _, made⟩ := Sequence.bind_eq_ok_iff.mp decoded
  cases found with
  | none =>
      cases made
      exact .other rfl
  | some root =>
      dsimp only at made
      split at made
      next isValue =>
        cases made
        exact (valueOf_isMadeFrom _ isValue).isKeyed
      next => cases made

end Yaml

end WorkflowLint
