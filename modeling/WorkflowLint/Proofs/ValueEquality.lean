import WorkflowLint.Proofs.Acceptance
import WorkflowLint.Proofs.DoubleValues
import WorkflowLint.Proofs.JsonValues
import Mathlib.Data.List.Nodup
import Mathlib.Data.List.Perm.Subperm

/-!
Contract: equality of the values that JSON texts spell.

A value that holds no others is an atom: null, a text or a number, where numbers of all types are
told apart by their magnitudes alone.  Lists are equal item by item, and mappings have equal entries
in any order.  Owns: that a JSON text spells each key of a mapping once, and that this equality is an
equivalence on the values that JSON texts spell.
-/

set_option autoImplicit false

namespace WorkflowLint.Value

open Decimal (Binary Magnitude)

/-- What a value that holds no others says. -/
inductive Atom where
  | null
  | text (content : String)
  | number (magnitude : Magnitude)

/-- The atom of a value. -/
def atom? : Value → Option Atom
  | .null => some .null
  | .bool flag => some (.number (.ofInt (if flag then 1 else 0)))
  | .int number => some (.number (.ofInt number))
  | .float number => some (.number (Binary.ofFloat number).magnitude)
  | .str text => some (.text text)
  | _ => none

theorem ofInt_inj {left right : Int} : Magnitude.ofInt left = .ofInt right ↔ left = right := by
  rw [Magnitude.ofInt, Magnitude.ofInt, Magnitude.multiple.injEq]
  exact mul_left_inj' (Decimal.units_ne_zero 0)

theorem compareInt_ofFloat_iff {number : Float} {whole : Int} :
    (Binary.ofFloat number).compareInt whole = some .eq ↔
      Magnitude.ofInt whole = (Binary.ofFloat number).magnitude := by
  rw [@eq_comm Magnitude]
  exact Binary.compareInt_eq_iff

/-- A value with an atom equals exactly the values with that atom. -/
theorem same_iff_of_atom {left right : Value} {atom : Atom} (isAtom : left.atom? = some atom) :
    left.same right = true ↔ right.atom? = some atom := by
  rw [@eq_comm (Option Atom), same.eq_def]
  cases left with
  | null =>
      cases isAtom
      cases right with
      | null => exact iff_of_true rfl rfl
      | _ => exact iff_of_false Bool.false_ne_true (by simp [atom?])
  | str text =>
      cases isAtom
      cases right with
      | str other => simp [sameScalar, atom?]
      | _ => exact iff_of_false Bool.false_ne_true (by simp [atom?])
  | bool flag =>
      cases isAtom
      cases right with
      | bool other => simp [sameScalar, wholeNumber?, atom?, ofInt_inj]
      | int other => simp [sameScalar, wholeNumber?, atom?, ofInt_inj]
      | float other => simp [sameScalar, wholeNumber?, atom?, compareInt_ofFloat_iff]
      | _ => exact iff_of_false Bool.false_ne_true (by simp [atom?])
  | int number =>
      cases isAtom
      cases right with
      | bool other => simp [sameScalar, wholeNumber?, atom?, ofInt_inj]
      | int other => simp [sameScalar, wholeNumber?, atom?, ofInt_inj]
      | float other => simp [sameScalar, wholeNumber?, atom?, compareInt_ofFloat_iff]
      | _ => exact iff_of_false Bool.false_ne_true (by simp [atom?])
  | float number =>
      cases isAtom
      cases right with
      | bool other =>
          rw [@eq_comm (Option Atom)]
          simp [sameScalar, wholeNumber?, atom?, compareInt_ofFloat_iff]
      | int other =>
          rw [@eq_comm (Option Atom)]
          simp [sameScalar, wholeNumber?, atom?, compareInt_ofFloat_iff]
      | float other => simp [sameScalar, atom?, Decimal.sameFloat_iff]
      | _ => exact iff_of_false Bool.false_ne_true (by simp [atom?])
  | _ => cases isAtom

/-! ## Lists and mappings -/

theorem sameItems_iff {items others : List Value} :
    sameItems items others = true ↔
      List.Forall₂ (fun left right => left.same right = true) items others := by
  induction items generalizing others with
  | nil => cases others <;> simp [sameItems]
  | cons item rest inductionHypothesis => cases others <;> simp [sameItems, inductionHypothesis]

theorem same_list_iff {items : List Value} {other : Value} :
    (Value.list items).same other = true ↔
      ∃ others, other = .list others ∧
        List.Forall₂ (fun left right => left.same right = true) items others := by
  cases other with
  | list others => simp [same, sameItems_iff]
  | _ =>
      rw [same.eq_def]
      exact iff_of_false Bool.false_ne_true (by simp)

private theorem sameEntries_iff {entries others : List (Value × Value)} :
    sameEntries entries others = true ↔
      ∀ entry ∈ entries, ∃ equal ∈ others,
        entry.1.same equal.1 = true ∧ entry.2.same equal.2 = true := by
  induction entries with
  | nil => simp [sameEntries]
  | cons entry rest inductionHypothesis =>
      rw [sameEntries, Bool.and_eq_true, inductionHypothesis, List.forall_mem_cons, List.any_eq_true]
      simp only [Bool.and_eq_true]

theorem same_map_iff {entries : List (Value × Value)} {other : Value} :
    (Value.map entries).same other = true ↔
      ∃ others, other = .map others ∧ entries.length = others.length ∧
        ∀ entry ∈ entries, ∃ equal ∈ others,
          entry.1.same equal.1 = true ∧ entry.2.same equal.2 = true := by
  cases other with
  | map others =>
      simp only [same, Bool.and_eq_true, beq_iff_eq, sameEntries_iff, map.injEq, exists_eq_left']
  | _ =>
      rw [same.eq_def]
      exact iff_of_false Bool.false_ne_true (by simp)

/-! ## Laws of equality -/

theorem IsJson.same_refl {value : Value} (isJson : value.IsJson) : value.same value = true := by
  induction isJson with
  | list _ inductionHypothesis =>
      exact same_list_iff.mpr ⟨_, rfl, List.forall₂_same.mpr inductionHypothesis⟩
  | map keys _ inductionHypothesis =>
      refine same_map_iff.mpr ⟨_, rfl, rfl, ?_⟩
      intro entry member
      obtain ⟨name, isText⟩ := keys entry member
      have sameKey : entry.1.same entry.1 = true := by rw [isText, same_str_iff]
      exact ⟨entry, member, sameKey, inductionHypothesis entry member⟩
  | _ => exact (same_iff_of_atom rfl).mpr rfl

theorem sameItems_trans {lefts middles rights : List Value}
    (each : ∀ left ∈ lefts, ∀ {middle right : Value},
      left.same middle = true → middle.same right = true → left.same right = true)
    (first : List.Forall₂ (fun left right => left.same right = true) lefts middles)
    (second : List.Forall₂ (fun left right => left.same right = true) middles rights) :
    List.Forall₂ (fun left right => left.same right = true) lefts rights := by
  induction first generalizing rights with
  | nil => exact second
  | cons own _ inductionHypothesis =>
      obtain ⟨ofFirst, ofRest⟩ := List.forall_mem_cons.mp each
      cases second with
      | cons next others => exact .cons (ofFirst own next) (inductionHypothesis ofRest others)

theorem IsJson.same_trans {left middle right : Value} (isJson : left.IsJson)
    (first : left.same middle = true) (second : middle.same right = true) :
    left.same right = true := by
  induction isJson generalizing middle right with
  | list _ inductionHypothesis =>
      obtain ⟨middles, rfl, firstItems⟩ := same_list_iff.mp first
      obtain ⟨rights, rfl, secondItems⟩ := same_list_iff.mp second
      exact same_list_iff.mpr ⟨rights, rfl,
        sameItems_trans inductionHypothesis firstItems secondItems⟩
  | map keys _ inductionHypothesis =>
      obtain ⟨middles, rfl, firstLength, firstEntries⟩ := same_map_iff.mp first
      obtain ⟨rights, rfl, secondLength, secondEntries⟩ := same_map_iff.mp second
      refine same_map_iff.mpr ⟨rights, rfl, firstLength.trans secondLength, ?_⟩
      intro entry member
      obtain ⟨name, isText⟩ := keys entry member
      obtain ⟨between, isBetween, firstKey, firstValue⟩ := firstEntries entry member
      obtain ⟨last, isLast, secondKey, secondValue⟩ := secondEntries between isBetween
      refine ⟨last, isLast, ?_, inductionHypothesis entry member firstValue secondValue⟩
      rw [isText, same_str_iff] at firstKey
      rw [isText, ← firstKey]
      exact secondKey
  | _ =>
      have between := (same_iff_of_atom rfl).mp first
      exact (same_iff_of_atom rfl).mpr ((same_iff_of_atom between).mp second)

/-! ## Distinct keys -/

/-- A JSON value whose mappings have distinct keys. -/
inductive IsSpelled : Value → Prop where
  | null : IsSpelled .null
  | bool (flag : Bool) : IsSpelled (.bool flag)
  | int (number : Int) : IsSpelled (.int number)
  | float (number : Float) : IsSpelled (.float number)
  | str (text : String) : IsSpelled (.str text)
  | list {items : List Value} (each : ∀ item ∈ items, IsSpelled item) : IsSpelled (.list items)
  | map {entries : List (Value × Value)} (keys : ∀ entry ∈ entries, ∃ name, entry.1 = .str name)
      (distinct : (entries.map Prod.fst).Nodup) (values : ∀ entry ∈ entries, IsSpelled entry.2) :
      IsSpelled (.map entries)

theorem IsSpelled.isJson {value : Value} (isSpelled : value.IsSpelled) : value.IsJson := by
  induction isSpelled with
  | null => exact .null
  | bool flag => exact .bool flag
  | int number => exact .int number
  | float number => exact .float number
  | str text => exact .str text
  | list _ inductionHypothesis => exact .list inductionHypothesis
  | map keys _ _ inductionHypothesis => exact .map keys inductionHypothesis

/-- Entries with distinct texts as keys. -/
structure AreSpelledEntries (entries : List (Value × Value)) : Prop where
  keys : ∀ entry ∈ entries, ∃ name, entry.1 = .str name
  distinct : (entries.map Prod.fst).Nodup
  values : ∀ entry ∈ entries, entry.2.IsSpelled

private theorem mem_keys_insert {name : String} {value key : Value} {entries : List (Value × Value)} :
    key ∈ (insert (.str name) value entries).map Prod.fst ↔
      key = .str name ∨ key ∈ entries.map Prod.fst := by
  induction entries with
  | nil => simp [insert]
  | cons entry rest inductionHypothesis =>
      obtain ⟨other, old⟩ := entry
      rw [insert]
      split
      next same =>
        have isKey := same_str_iff.mp same
        simp [isKey]
      next =>
        rw [List.map_cons, List.mem_cons, inductionHypothesis, List.map_cons, List.mem_cons]
        exact or_left_comm

private theorem nodup_keys_insert (name : String) (value : Value) {entries : List (Value × Value)}
    (distinct : (entries.map Prod.fst).Nodup) :
    ((insert (.str name) value entries).map Prod.fst).Nodup := by
  induction entries with
  | nil => simp [insert]
  | cons entry rest inductionHypothesis =>
      obtain ⟨key, old⟩ := entry
      obtain ⟨isNew, others⟩ := List.nodup_cons.mp distinct
      rw [insert]
      split
      next => exact distinct
      next differs =>
        have stillNew : key ∉ (insert (.str name) value rest).map Prod.fst := by
          rw [mem_keys_insert, not_or]
          exact ⟨fun isKey => differs (same_str_iff.mpr isKey), isNew⟩
        exact List.nodup_cons.mpr ⟨stillNew, inductionHypothesis others⟩

theorem AreSpelledEntries.insert {entries : List (Value × Value)} (each : AreSpelledEntries entries)
    (name : String) {value : Value} (isSpelled : value.IsSpelled) :
    AreSpelledEntries (insert (.str name) value entries) := by
  have inserted := @forall_mem_insert (∃ name, · = .str name) IsSpelled (.str name) value entries
    (fun entry member => ⟨each.keys entry member, each.values entry member⟩) ⟨name, rfl⟩ isSpelled
  exact
    { keys := fun entry member => (inserted entry member).1
      distinct := nodup_keys_insert name value each.distinct
      values := fun entry member => (inserted entry member).2 }

/-- Reading puts a key again where it stands already, so a JSON text spells distinct keys. -/
theorem isSpelled_of_decode {text : List Char} {value : Value}
    (decoded : Json.decode text = .ok value) : value.IsSpelled := by
  have kept : Json.IsKept IsSpelled AreSpelledEntries :=
    { null := .null
      bool := .bool
      int := fun _ => .int _
      float := .float
      str := .str
      list := .list
      nil := ⟨by simp, by simp, by simp⟩
      insert := fun name each isSpelled => each.insert name isSpelled
      map := fun each => .map each.keys each.distinct each.values }
  exact Json.holds_of_decode kept decoded

/-- Equal mappings have the same keys: each key on the left is one on the right, no key is met twice,
and there are as many. -/
theorem keys_perm_of_same {lefts rights : List (Value × Value)}
    (texts : ∀ entry ∈ lefts, ∃ name, entry.1 = .str name) (distinct : (lefts.map Prod.fst).Nodup)
    (sameLength : lefts.length = rights.length)
    (each : ∀ entry ∈ lefts, ∃ equal ∈ rights,
      entry.1.same equal.1 = true ∧ entry.2.same equal.2 = true) :
    (lefts.map Prod.fst).Perm (rights.map Prod.fst) := by
  have within : lefts.map Prod.fst ⊆ rights.map Prod.fst := by
    intro key member
    obtain ⟨entry, listed, rfl⟩ := List.mem_map.mp member
    obtain ⟨name, isText⟩ := texts entry listed
    obtain ⟨equal, isListed, sameKey, _⟩ := each entry listed
    rw [isText, same_str_iff] at sameKey
    rw [isText, ← sameKey]
    exact List.mem_map_of_mem isListed
  exact (List.subperm_of_subset distinct within).perm_of_length_le (by simp [sameLength])

theorem sameItems_symm {lefts rights : List Value}
    (each : ∀ left ∈ lefts, ∀ right ∈ rights, left.same right = true → right.same left = true)
    (all : List.Forall₂ (fun left right => left.same right = true) lefts rights) :
    List.Forall₂ (fun left right => left.same right = true) rights lefts := by
  induction all with
  | nil => exact .nil
  | cons own _ inductionHypothesis =>
      refine .cons (each _ List.mem_cons_self _ List.mem_cons_self own) (inductionHypothesis ?_)
      intro left leftListed right rightListed
      exact each left (List.mem_cons_of_mem _ leftListed) right (List.mem_cons_of_mem _ rightListed)

theorem IsSpelled.same_symm {left right : Value} (leftSpelled : left.IsSpelled)
    (rightSpelled : right.IsSpelled) (same : left.same right = true) :
    right.same left = true := by
  induction leftSpelled generalizing right with
  | list _ inductionHypothesis =>
      obtain ⟨rights, rfl, sameItems⟩ := same_list_iff.mp same
      cases rightSpelled with
      | list rightItems =>
          refine same_list_iff.mpr ⟨_, rfl, sameItems_symm ?_ sameItems⟩
          intro item listed other otherListed
          exact inductionHypothesis item listed (rightItems other otherListed)
  | @map lefts keys distinct _ inductionHypothesis =>
      obtain ⟨rights, rfl, sameLength, each⟩ := same_map_iff.mp same
      cases rightSpelled with
      | map rightKeys rightDistinct rightValues =>
          refine same_map_iff.mpr ⟨lefts, rfl, sameLength.symm, ?_⟩
          intro entry listed
          have sameKeys := keys_perm_of_same keys distinct sameLength each
          obtain ⟨name, isText⟩ := rightKeys entry listed
          obtain ⟨other, otherListed, isKey⟩ :=
            List.mem_map.mp (sameKeys.mem_iff.mpr (List.mem_map_of_mem listed))
          -- What equals the entry with this key is the entry of the same key.
          obtain ⟨equal, equalListed, equalKey, equalValue⟩ := each other otherListed
          rw [isKey, isText, same_str_iff, ← isText] at equalKey
          cases List.inj_on_of_nodup_map rightDistinct equalListed listed equalKey
          have valueSpelled := rightValues entry listed
          refine ⟨other, otherListed, ?_, inductionHypothesis other otherListed valueSpelled equalValue⟩
          rw [isKey, isText, same_str_iff]
  | _ => exact (same_iff_of_atom ((same_iff_of_atom rfl).mp same)).mpr rfl

/-! ## Parts of spelled values -/

theorem IsSpelled.of_mem {entries : List (Value × Value)} (isSpelled : (Value.map entries).IsSpelled)
    {entry : Value × Value} (listed : entry ∈ entries) : entry.2.IsSpelled := by
  cases isSpelled with
  | map _ _ values => exact values entry listed

theorem IsSpelled.field {entries : List (Value × Value)} (isSpelled : (Value.map entries).IsSpelled)
    (name : String) : (field name entries).IsSpelled := by
  rw [Value.field]
  cases found : lookupText name entries with
  | none => exact .null
  | some value =>
      obtain ⟨key, listed⟩ := exists_mem_of_lookupText found
      exact isSpelled.of_mem listed

/-- A link in a spelled value is spelled. -/
theorem LinkAt.isSpelled {value : Value} {way : List Nat} {link : List (Value × Value)}
    (stands : LinkAt value way link) (isSpelled : value.IsSpelled) :
    (Value.map link).IsSpelled := by
  induction stands with
  | here _ => exact isSpelled
  | inList atIndex _ inductionHypothesis =>
      cases isSpelled with
      | list each => exact inductionHypothesis (each _ (List.mem_of_getElem? atIndex))
  | inTuple _ _ _ => cases isSpelled

/-- Only a text equals a text. -/
theorem same_right_str_iff {value : Value} {text : String} :
    value.same (.str text) = true ↔ value = .str text := by
  cases value with
  | str other => simp [same, sameScalar]
  | _ =>
      rw [same.eq_def]
      exact iff_of_false Bool.false_ne_true (by simp)

end WorkflowLint.Value
