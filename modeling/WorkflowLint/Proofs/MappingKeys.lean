import WorkflowLint.Proofs.Listing
import WorkflowLint.Proofs.ValueEquality

/-!
Contract: what stands under the keys of nested mappings.

Equality is an equivalence on the values that can be keys, so an insertion changes what is found under
one key and leaves the order of the keys that were there.  `IsKeyed` says that the mappings of a value
have distinct keys, and `valueAt` is the value at the end of a way through nested mappings.
-/

set_option autoImplicit false

namespace WorkflowLint.Value

/-! ## Equality of keys -/

theorem areKeys_iff {items : List Value} :
    areKeys items = true ↔ ∀ item ∈ items, item.isKey = true := by
  induction items with
  | nil => simp [areKeys]
  | cons item rest inductionHypothesis => simp [areKeys, inductionHypothesis]

theorem same_tuple_iff {items : List Value} {other : Value} :
    (Value.tuple items).same other = true ↔
      ∃ others, other = .tuple others ∧
        List.Forall₂ (fun left right => left.same right = true) items others := by
  cases other with
  | tuple others => simp [same, sameItems_iff]
  | _ =>
      rw [same.eq_def]
      exact iff_of_false Bool.false_ne_true (by simp)

private theorem same_bytes_iff {octets : List UInt8} {other : Value} :
    (Value.bytes octets).same other = true ↔ other = .bytes octets := by
  cases other with
  | bytes others =>
      rw [@eq_comm Value]
      simp [same, sameScalar]
  | _ =>
      rw [same.eq_def]
      exact iff_of_false Bool.false_ne_true (by simp)

private theorem same_moment_iff {point : Moment} {other : Value} :
    (Value.moment point).same other = true ↔ other = .moment point := by
  cases other with
  | moment others =>
      rw [@eq_comm Value]
      simp [same, sameScalar]
  | _ =>
      rw [same.eq_def]
      exact iff_of_false Bool.false_ne_true (by simp)

/-- What a key is: an atom, a value that equals only itself, or a tuple of keys. -/
inductive KeyShape : Value → Prop where
  | atom {value : Value} {atom : Atom} (isAtom : value.atom? = some atom) : KeyShape value
  | exact {value : Value} (alone : ∀ other, value.same other = true ↔ other = value) :
      KeyShape value
  | tuple {items : List Value} (each : ∀ item ∈ items, KeyShape item) : KeyShape (.tuple items)

theorem keyShape_of_isKey {key : Value} (isKey : key.isKey = true) : KeyShape key := by
  induction key using children_induction with
  | step key inside =>
      cases key with
      | tuple items =>
          rw [Value.isKey, areKeys_iff] at isKey
          exact .tuple fun item member => inside item member (isKey item member)
      | bytes octets => exact .exact fun _ => same_bytes_iff
      | moment point => exact .exact fun _ => same_moment_iff
      | list items => simp [Value.isKey] at isKey
      | map entries => simp [Value.isKey] at isKey
      | set items => simp [Value.isKey] at isKey
      | _ => exact .atom rfl

theorem KeyShape.same_refl {key : Value} (isKey : KeyShape key) : key.same key = true := by
  induction isKey with
  | atom isAtom => exact (same_iff_of_atom isAtom).mpr isAtom
  | exact alone => exact (alone _).mpr rfl
  | tuple _ inductionHypothesis =>
      exact same_tuple_iff.mpr ⟨_, rfl, List.forall₂_same.mpr inductionHypothesis⟩

theorem KeyShape.same_symm {left right : Value} (isKey : KeyShape left)
    (same : left.same right = true) : right.same left = true := by
  induction isKey generalizing right with
  | atom isAtom =>
      have rightAtom := (same_iff_of_atom isAtom).mp same
      exact (same_iff_of_atom rightAtom).mpr isAtom
  | exact alone =>
      obtain rfl := (alone right).mp same
      exact same
  | tuple _ inductionHypothesis =>
      obtain ⟨rights, rfl, items⟩ := same_tuple_iff.mp same
      refine same_tuple_iff.mpr ⟨_, rfl, sameItems_symm ?_ items⟩
      intro item member other _
      exact inductionHypothesis item member

theorem KeyShape.same_trans {left middle right : Value} (isKey : KeyShape left)
    (first : left.same middle = true) (second : middle.same right = true) :
    left.same right = true := by
  induction isKey generalizing middle right with
  | atom isAtom =>
      have between := (same_iff_of_atom isAtom).mp first
      exact (same_iff_of_atom isAtom).mpr ((same_iff_of_atom between).mp second)
  | exact alone =>
      obtain rfl := (alone middle).mp first
      exact second
  | tuple _ inductionHypothesis =>
      obtain ⟨middles, rfl, firstItems⟩ := same_tuple_iff.mp first
      obtain ⟨rights, rfl, secondItems⟩ := same_tuple_iff.mp second
      exact same_tuple_iff.mpr ⟨rights, rfl,
        sameItems_trans inductionHypothesis firstItems secondItems⟩

theorem same_comm_of_isKey {key other : Value} (isKey : key.isKey = true)
    (otherKey : other.isKey = true) : key.same other = other.same key := by
  rw [Bool.eq_iff_iff]
  exact ⟨(keyShape_of_isKey isKey).same_symm, (keyShape_of_isKey otherKey).same_symm⟩

/-- Equal keys equal the same values. -/
theorem same_congr_of_isKey {key other : Value} (isKey : key.isKey = true)
    (otherKey : other.isKey = true) (equal : key.same other = true) (third : Value) :
    key.same third = other.same third := by
  have shape := keyShape_of_isKey isKey
  have otherShape := keyShape_of_isKey otherKey
  rw [Bool.eq_iff_iff]
  constructor
  · exact otherShape.same_trans (shape.same_symm equal)
  · exact shape.same_trans equal

/-! ## Lookup and insertion -/

theorem lookup_str (name : String) (entries : List (Value × Value)) :
    lookup (.str name) entries = lookupText name entries := by
  fun_induction lookupText name entries with
  | case1 => rfl
  | case2 other value rest isName =>
      rw [lookup, if_pos (same_str_iff.mpr (by rw [beq_iff_eq.mp isName]))]
  | case3 other value rest differs inductionHypothesis =>
      have apart : ¬ (Value.str name).same (.str other) = true := by
        rw [same_str_iff, str.injEq]
        exact fun equal => differs (beq_iff_eq.mpr equal.symm)
      rw [lookup, if_neg apart, inductionHypothesis]
  | case4 entry rest noText inductionHypothesis =>
      obtain ⟨key, value⟩ := entry
      have apart : ¬ (Value.str name).same key = true := by
        rw [same_str_iff]
        exact fun isText => noText name value (by rw [isText])
      rw [lookup, if_neg apart, inductionHypothesis]

theorem lookup_eq_none_iff {key : Value} {entries : List (Value × Value)} :
    lookup key entries = none ↔ ∀ entry ∈ entries, key.same entry.1 = false := by
  induction entries with
  | nil => simp [lookup]
  | cons entry rest inductionHypothesis =>
      rw [lookup, List.forall_mem_cons, ← inductionHypothesis]
      cases key.same entry.1 <;> simp

private theorem exists_mem_of_lookup {key value : Value} {entries : List (Value × Value)}
    (found : lookup key entries = some value) : ∃ other, (other, value) ∈ entries := by
  induction entries with
  | nil => cases found
  | cons entry rest inductionHypothesis =>
      rw [lookup] at found
      split at found
      · cases found
        exact ⟨entry.1, List.mem_cons_self⟩
      · obtain ⟨other, listed⟩ := inductionHypothesis found
        exact ⟨other, List.mem_cons_of_mem _ listed⟩

/-- Putting in what is there already changes nothing. -/
theorem insert_of_lookup {key value : Value} {entries : List (Value × Value)}
    (found : lookup key entries = some value) : insert key value entries = entries := by
  induction entries with
  | nil => cases found
  | cons entry rest inductionHypothesis =>
      rw [lookup] at found
      rw [insert]
      split at found
      next same =>
        cases found
        rw [if_pos same]
      next differs => rw [if_neg differs, inductionHypothesis found]

/-- An insertion keeps the keys in their places; a new key comes last. -/
theorem keys_insert (key value : Value) (entries : List (Value × Value)) :
    (insert key value entries).map Prod.fst =
      entries.map Prod.fst ++ if (lookup key entries).isNone then [key] else [] := by
  induction entries with
  | nil => rfl
  | cons entry rest inductionHypothesis =>
      rw [insert, lookup]
      split
      · simp
      · simp [inductionHypothesis]

/-- An insertion changes what is found under its own key. -/
theorem lookup_insert {key other value : Value} {entries : List (Value × Value)}
    (isKey : key.isKey = true) (otherKey : other.isKey = true)
    (keys : ∀ entry ∈ entries, entry.1.isKey = true) :
    lookup key (insert other value entries) =
      if key.same other then some value else lookup key entries := by
  induction entries with
  | nil => simp [insert, lookup]
  | cons entry rest inductionHypothesis =>
      obtain ⟨first, old⟩ := entry
      obtain ⟨firstKey, restKeys⟩ := List.forall_mem_cons.mp keys
      rw [insert]
      by_cases met : other.same first = true
      · -- The key equals what is put in exactly when it equals the key that stands there.
        have metKey : key.same other = key.same first := by
          rw [same_comm_of_isKey isKey otherKey, same_congr_of_isKey otherKey firstKey met,
            same_comm_of_isKey firstKey isKey]
        rw [if_pos met, lookup, lookup, metKey]
        split <;> rfl
      · rw [if_neg met, lookup, lookup, inductionHypothesis restKeys]
        by_cases here : key.same first = true
        · have apart : ¬ key.same other = true := by
            rw [same_congr_of_isKey isKey firstKey here, same_comm_of_isKey firstKey otherKey]
            exact met
          rw [if_pos here, if_neg apart, if_pos here]
        · rw [if_neg here, if_neg here]

/-! ## Distinct keys -/

/-- A value whose mappings have distinct keys, as far as ways through mappings lead. -/
inductive IsKeyed : Value → Prop where
  | map {entries : List (Value × Value)} (keys : ∀ entry ∈ entries, entry.1.isKey = true)
      (distinct : entries.Pairwise fun left right => left.1.same right.1 = false)
      (values : ∀ entry ∈ entries, IsKeyed entry.2) : IsKeyed (.map entries)
  | other {value : Value} (noMap : value.isMap = false) : IsKeyed value

/-- The entries of a mapping with distinct keys. -/
structure AreKeyed (entries : List (Value × Value)) : Prop where
  keys : ∀ entry ∈ entries, entry.1.isKey = true
  distinct : entries.Pairwise fun left right => left.1.same right.1 = false
  values : ∀ entry ∈ entries, entry.2.IsKeyed

theorem isKeyed_map_iff {entries : List (Value × Value)} :
    (Value.map entries).IsKeyed ↔ AreKeyed entries := by
  constructor
  · intro isKeyed
    cases isKeyed with
    | map keys distinct values => exact ⟨keys, distinct, values⟩
    | other noMap => cases noMap
  · intro each
    exact .map each.keys each.distinct each.values

theorem areKeyed_nil : AreKeyed [] := ⟨by simp, .nil, by simp⟩

theorem AreKeyed.tail {entry : Value × Value} {entries : List (Value × Value)}
    (each : AreKeyed (entry :: entries)) : AreKeyed entries where
  keys := (List.forall_mem_cons.mp each.keys).2
  distinct := (List.pairwise_cons.mp each.distinct).2
  values := (List.forall_mem_cons.mp each.values).2

theorem AreKeyed.lookup {entries : List (Value × Value)} (each : AreKeyed entries) {key value : Value}
    (found : lookup key entries = some value) : value.IsKeyed := by
  obtain ⟨other, listed⟩ := exists_mem_of_lookup found
  exact each.values (other, value) listed

theorem AreKeyed.insert {entries : List (Value × Value)} (each : AreKeyed entries) {key value : Value}
    (isKey : key.isKey = true) (isKeyed : value.IsKeyed) : AreKeyed (insert key value entries) := by
  have inserted := @forall_mem_insert (·.isKey = true) IsKeyed key value entries
    (fun entry member => ⟨each.keys entry member, each.values entry member⟩) isKey isKeyed
  -- Only the keys count here, and a new one is equal to none of them.
  have onKeys : (entries.map Prod.fst).Pairwise fun left right => left.same right = false :=
    List.pairwise_map.mpr each.distinct
  have insertedKeys : ((Value.insert key value entries).map Prod.fst).Pairwise
      fun left right => left.same right = false := by
    rw [keys_insert]
    split
    next isNew =>
      rw [Option.isNone_iff_eq_none, lookup_eq_none_iff] at isNew
      refine List.pairwise_append.mpr ⟨onKeys, List.pairwise_singleton _ _, ?_⟩
      intro other listed last isLast
      obtain ⟨entry, member, rfl⟩ := List.mem_map.mp listed
      rw [List.mem_singleton.mp isLast, same_comm_of_isKey (each.keys entry member) isKey]
      exact isNew entry member
    next =>
      rw [List.append_nil]
      exact onKeys
  exact
    { keys := fun entry member => (inserted entry member).1
      distinct := List.pairwise_map.mp insertedKeys
      values := fun entry member => (inserted entry member).2 }

theorem isKeyed_record {fields : List (String × Value)} (distinct : (fields.map Prod.fst).Nodup)
    (values : fields.Forall fun field => field.2.IsKeyed) : (record fields).IsKeyed := by
  refine .map (List.forall_mem_map.mpr fun _ _ => rfl) ?_
    (List.forall_mem_map.mpr (List.forall_iff_forall_mem.mp values))
  refine List.pairwise_map.mpr ((List.pairwise_map.mp distinct).imp fun differ => ?_)
  rw [← Bool.not_eq_true, same_str_iff, str.injEq]
  exact differ.symm

/-! ## Ways through mappings -/

/-- The value at the end of a way of keys through nested mappings. -/
def valueAt : List Value → Value → Option Value
  | [], value => some value
  | key :: rest, .map entries => (lookup key entries).bind (valueAt rest)
  | _ :: _, _ => none

theorem valueAt_cons_map (key : Value) (rest : List Value) (entries : List (Value × Value)) :
    valueAt (key :: rest) (.map entries) = (lookup key entries).bind (valueAt rest) := rfl

/-- Ways lead through mappings only. -/
theorem valueAt_of_noMap {value : Value} (noMap : value.isMap = false) {way : List Value}
    (goesOn : way ≠ []) : valueAt way value = none := by
  cases way with
  | nil => exact absurd rfl goesOn
  | cons key rest =>
      cases value with
      | map entries => cases noMap
      | _ => rfl

theorem IsKeyed.valueAt {value inner : Value} (isKeyed : value.IsKeyed) {way : List Value}
    (found : valueAt way value = some inner) : inner.IsKeyed := by
  induction way generalizing value with
  | nil =>
      cases found
      exact isKeyed
  | cons key rest inductionHypothesis =>
      cases value with
      | map entries =>
          obtain ⟨next, under, further⟩ := Option.bind_eq_some_iff.mp found
          exact inductionHypothesis ((isKeyed_map_iff.mp isKeyed).lookup under) further
      | _ => cases found

theorem valueAt_append (start rest : List Value) (value : Value) :
    valueAt (start ++ rest) value = (valueAt start value).bind (valueAt rest) := by
  induction start generalizing value with
  | nil => rfl
  | cons key start inductionHypothesis =>
      cases value with
      | map entries =>
          rw [List.cons_append, valueAt_cons_map, valueAt_cons_map]
          cases lookup key entries with
          | none => rfl
          | some inner => exact inductionHypothesis inner
      | _ => rfl

end WorkflowLint.Value
