import Mathlib.Algebra.Group.Nat.Defs
import WorkflowLint.Proofs.JsonFaults
import WorkflowLint.Proofs.Mentions
import WorkflowLint.Rule.Retries

/-!
Contract: the values that JSON texts spell.

Of all values these are the plain ones: no tuples, sets, octets or dates, and only texts as keys.
Owns: that reading a JSON text gives such a value, and a value with any property that is kept while
values are put together; that fields of such values are such values again; and that each of them can
be written as a JSON text, when its integers are short enough, as those of a JSON text are.
-/

set_option autoImplicit false

namespace WorkflowLint

namespace Value

/-- A value as JSON texts spell them. -/
inductive IsJson : Value → Prop where
  | null : IsJson .null
  | bool (flag : Bool) : IsJson (.bool flag)
  | int (number : Int) : IsJson (.int number)
  | float (number : Float) : IsJson (.float number)
  | str (text : String) : IsJson (.str text)
  | list {items : List Value} (each : ∀ item ∈ items, IsJson item) : IsJson (.list items)
  | map {entries : List (Value × Value)} (keys : ∀ entry ∈ entries, ∃ name, entry.1 = .str name)
      (values : ∀ entry ∈ entries, IsJson entry.2) : IsJson (.map entries)

/-- Entries with texts as keys and JSON values. -/
structure AreJsonEntries (entries : List (Value × Value)) : Prop where
  keys : ∀ entry ∈ entries, ∃ name, entry.1 = .str name
  values : ∀ entry ∈ entries, entry.2.IsJson

theorem isJson_map_iff {entries : List (Value × Value)} :
    (Value.map entries).IsJson ↔ AreJsonEntries entries := by
  constructor
  · intro isJson
    cases isJson with
    | map keys values => exact ⟨keys, values⟩
  · intro each
    exact .map each.keys each.values

private theorem areJsonEntries_nil : AreJsonEntries [] := ⟨by simp, by simp⟩

/-- What holds of all keys and values, and of those that are put in, holds after an insertion. -/
theorem forall_mem_insert {ofKey ofValue : Value → Prop} {key value : Value}
    {entries : List (Value × Value)} (each : ∀ entry ∈ entries, ofKey entry.1 ∧ ofValue entry.2)
    (keyHolds : ofKey key) (valueHolds : ofValue value) :
    ∀ entry ∈ insert key value entries, ofKey entry.1 ∧ ofValue entry.2 := by
  induction entries with
  | nil => exact List.forall_mem_singleton.mpr ⟨keyHolds, valueHolds⟩
  | cons entry rest inductionHypothesis =>
      obtain ⟨own, others⟩ := List.forall_mem_cons.mp each
      rw [insert]
      split
      · exact List.forall_mem_cons.mpr ⟨⟨own.1, valueHolds⟩, others⟩
      · exact List.forall_mem_cons.mpr ⟨own, inductionHypothesis others⟩

theorem AreJsonEntries.insert {entries : List (Value × Value)} (each : AreJsonEntries entries)
    (name : String) {value : Value} (isJson : value.IsJson) :
    AreJsonEntries (insert (.str name) value entries) := by
  have inserted := @forall_mem_insert (∃ name, · = .str name) IsJson (.str name) value entries
    (fun entry member => ⟨each.keys entry member, each.values entry member⟩) ⟨name, rfl⟩ isJson
  exact ⟨fun entry member => (inserted entry member).1, fun entry member => (inserted entry member).2⟩

theorem exists_mem_of_lookupText {name : String} {entries : List (Value × Value)} {value : Value}
    (found : lookupText name entries = some value) : ∃ key, (key, value) ∈ entries := by
  fun_induction lookupText name entries with
  | case1 => cases found
  | case2 other first rest isName =>
      cases found
      exact ⟨_, List.mem_cons_self⟩
  | case3 other first rest differs inductionHypothesis =>
      obtain ⟨key, listed⟩ := inductionHypothesis found
      exact ⟨key, List.mem_cons_of_mem _ listed⟩
  | case4 entry rest noText inductionHypothesis =>
      obtain ⟨key, listed⟩ := inductionHypothesis found
      exact ⟨key, List.mem_cons_of_mem _ listed⟩

theorem AreJsonEntries.lookupText {entries : List (Value × Value)} (each : AreJsonEntries entries)
    {name : String} {value : Value} (found : lookupText name entries = some value) :
    value.IsJson := by
  obtain ⟨key, listed⟩ := exists_mem_of_lookupText found
  exact each.values (key, value) listed

theorem isJson_record {fields : List (String × Value)}
    (each : ∀ field ∈ fields, field.2.IsJson) : (record fields).IsJson := by
  refine .map ?_ ?_
  · rintro entry member
    obtain ⟨field, _, rfl⟩ := List.mem_map.mp member
    exact ⟨field.1, rfl⟩
  · rintro entry member
    obtain ⟨field, listed, rfl⟩ := List.mem_map.mp member
    exact each field listed

end Value

/-! ## Reading -/

namespace Json

open Value (AreJsonEntries)

/-- A property that values have from the way they are read: atoms have it, and lists and mappings have
it when they are put together from values that do. -/
structure IsKept (holds : Value → Prop) (holdTogether : List (Value × Value) → Prop) : Prop where
  null : holds .null
  bool : ∀ flag, holds (.bool flag)
  int : ∀ {number}, Decimal.IsConvertible number → holds (.int number)
  float : ∀ number, holds (.float number)
  str : ∀ text, holds (.str text)
  list : ∀ {items}, (∀ item ∈ items, holds item) → holds (.list items)
  nil : holdTogether []
  insert : ∀ {entries value} name, holdTogether entries → holds value →
    holdTogether (Value.insert (.str name) value entries)
  map : ∀ {entries}, holdTogether entries → holds (.map entries)

section Reading

variable {holds : Value → Prop} {holdTogether : List (Value × Value) → Prop}

/-- A number of so many digits is below that power of ten. -/
theorem digitsValue_lt {digits : List Char} (areDigits : ∀ c ∈ digits, c.isDigit = true) :
    Decimal.digitsValue digits < 10 ^ digits.length := by
  have onto : ∀ before, digits.foldl (fun value c => value * 10 + (c.toNat - 48)) before <
      (before + 1) * 10 ^ digits.length := by
    induction digits with
    | nil => simp
    | cons c rest inductionHypothesis =>
        obtain ⟨isDigit, others⟩ := List.forall_mem_cons.mp areDigits
        intro before
        have digit : c.toNat - 48 < 10 := by
          have : 48 ≤ c.toNat ∧ c.toNat ≤ 57 := Char.isDigit_iff_toNat.mp isDigit
          omega
        rw [List.foldl_cons, List.length_cons, Nat.pow_succ', ← Nat.mul_assoc]
        refine Nat.lt_of_lt_of_le (inductionHypothesis others _) (Nat.mul_le_mul_right _ ?_)
        omega
  rw [Decimal.digitsValue]
  simpa using onto 0

private theorem isConvertible_of_digits {digits : List Char}
    (areDigits : ∀ c ∈ digits, c.isDigit = true)
    (short : digits.length ≤ Decimal.digitLimit) {number : Int}
    (spelled : number.natAbs = Decimal.digitsValue digits) : Decimal.IsConvertible number := by
  rw [Decimal.IsConvertible, Decimal.digitsOf,
    Nat.length_toDigits_le_iff (by decide) (by decide), spelled]
  exact Nat.lt_of_lt_of_le (digitsValue_lt areDigits) (Nat.pow_le_pow_right (by decide) short)

section Atoms

variable (kept : IsKept holds holdTogether)
include kept

theorem readMagnitude_holds {negative : Bool} {text rest : List Char} {value : Value}
    (succeeds : readMagnitude negative text = .ok (value, rest)) : holds value := by
  unfold readMagnitude at succeeds
  split at succeeds
  · cases succeeds
  · next isWhole =>
    dsimp only at succeeds
    split at succeeds
    · split at succeeds
      · cases succeeds
      · next short =>
          cases succeeds
          refine kept.int (isConvertible_of_digits (wholePart?_cases isWhole).2
            (Nat.not_lt.mp short) ?_)
          split <;> simp
    · cases succeeds
      exact kept.float _

private theorem readAtom_holds {text rest : List Char} {value : Value}
    (succeeds : readAtom text = .ok (value, rest)) : holds value := by
  unfold readAtom at succeeds
  split at succeeds
  · cases succeeds
    exact kept.null
  · cases succeeds
    exact kept.bool _
  · cases succeeds
    exact kept.bool _
  · cases succeeds
    exact kept.float _
  · cases succeeds
    exact kept.float _
  · cases succeeds
    exact kept.float _
  · split at succeeds
    · exact readMagnitude_holds kept succeeds
    · exact readMagnitude_holds kept succeeds

end Atoms

/-- With so much fuel, everything that is read has the property. -/
structure ReadsOnly (holds : Value → Prop) (holdTogether : List (Value × Value) → Prop)
    (fuel : Nat) : Prop where
  value : ∀ {levels text value rest}, readValue levels fuel text = .ok (value, rest) → holds value
  items : ∀ {levels text items rest}, readItems levels fuel text = .ok (items, rest) →
    ∀ item ∈ items, holds item
  members : ∀ {levels before text entries rest}, holdTogether before →
    readMembers levels fuel before text = .ok (entries, rest) → holdTogether entries

section Step

variable (kept : IsKept holds holdTogether) {levels fuel : Nat}
  (below : ReadsOnly holds holdTogether fuel)

include kept below in
private theorem readValue_holds {text rest : List Char} {value : Value}
    (succeeds : readValue levels (fuel + 1) text = .ok (value, rest)) : holds value := by
  rw [readValue.eq_def] at succeeds
  dsimp only at succeeds
  split at succeeds
  · obtain ⟨_, _, made⟩ := Sequence.bind_eq_ok_iff.mp succeeds
    cases made
    exact kept.str _
  · obtain ⟨_, _, succeeds⟩ := Sequence.bind_eq_ok_iff.mp succeeds
    split at succeeds
    · cases succeeds
      exact kept.map kept.nil
    · obtain ⟨_, read, made⟩ := Sequence.bind_eq_ok_iff.mp succeeds
      cases made
      exact kept.map (below.members kept.nil read)
  · obtain ⟨_, _, succeeds⟩ := Sequence.bind_eq_ok_iff.mp succeeds
    split at succeeds
    · cases succeeds
      exact kept.list (by simp)
    · obtain ⟨_, read, made⟩ := Sequence.bind_eq_ok_iff.mp succeeds
      cases made
      exact kept.list (below.items read)
  · exact readAtom_holds kept succeeds

include below in
private theorem readItems_hold {text rest : List Char} {items : List Value}
    (succeeds : readItems levels (fuel + 1) text = .ok (items, rest)) :
    ∀ item ∈ items, holds item := by
  rw [readItems] at succeeds
  obtain ⟨⟨first, after⟩, firstRead, others⟩ := Sequence.bind_eq_ok_iff.mp succeeds
  dsimp only at others
  split at others
  · cases others
    exact List.forall_mem_singleton.mpr (below.value firstRead)
  · obtain ⟨_, othersRead, made⟩ := Sequence.bind_eq_ok_iff.mp others
    cases made
    exact List.forall_mem_cons.mpr ⟨below.value firstRead, below.items othersRead⟩
  · cases others

include kept below in
private theorem readMembers_hold {before entries : List (Value × Value)} {text rest : List Char}
    (beforeHold : holdTogether before)
    (succeeds : readMembers levels (fuel + 1) before text = .ok (entries, rest)) :
    holdTogether entries := by
  rw [readMembers.eq_def] at succeeds
  dsimp only at succeeds
  split at succeeds
  · obtain ⟨⟨name, afterName⟩, _, afterColon⟩ := Sequence.bind_eq_ok_iff.mp succeeds
    dsimp only at afterColon
    split at afterColon
    · obtain ⟨⟨value, afterValue⟩, valueRead, others⟩ := Sequence.bind_eq_ok_iff.mp afterColon
      have extended := kept.insert (String.ofList name) beforeHold (below.value valueRead)
      dsimp only at others
      split at others
      · cases others
        exact extended
      · exact below.members extended others
      · cases others
    · cases afterColon
  · cases succeeds

end Step

private theorem readsOnly (kept : IsKept holds holdTogether) (fuel : Nat) :
    ReadsOnly holds holdTogether fuel := by
  induction fuel with
  | zero => exact ⟨by simp [readValue], by simp [readItems], by simp [readMembers]⟩
  | succ fuel inductionHypothesis =>
      exact ⟨readValue_holds kept inductionHypothesis, readItems_hold inductionHypothesis,
        readMembers_hold kept inductionHypothesis⟩

/-- What is kept while a text is read holds of the value that the text spells. -/
theorem holds_of_decode (kept : IsKept holds holdTogether) {text : List Char} {value : Value}
    (decoded : decode text = .ok value) : holds value := by
  unfold decode at decoded
  split at decoded
  · cases decoded
  · obtain ⟨⟨read, after⟩, valueRead, whole⟩ := Sequence.bind_eq_ok_iff.mp decoded
    dsimp only at whole
    split at whole
    · cases whole
      exact (readsOnly kept _).value valueRead
    · cases whole

end Reading

/-- A JSON text spells a JSON value. -/
theorem isJson_of_decode {text : List Char} {value : Value} (decoded : decode text = .ok value) :
    value.IsJson := by
  have kept : IsKept Value.IsJson AreJsonEntries :=
    { null := .null
      bool := .bool
      int := fun _ => .int _
      float := .float
      str := .str
      list := .list
      nil := Value.areJsonEntries_nil
      insert := fun name each isJson => each.insert name isJson
      map := Value.isJson_map_iff.mpr }
  exact holds_of_decode kept decoded

end Json

/-! ## Spelling -/

namespace Value

private theorem isSpellable_int {number : Int} :
    (int number).isSpellable = true ↔ Decimal.IsConvertible number := by
  simp [isSpellable]

/-- A JSON text spells integers that can be written again. -/
theorem isSpellable_of_decode {text : List Char} {value : Value}
    (decoded : Json.decode text = .ok value) : value.isSpellable = true := by
  have kept : Json.IsKept (·.isSpellable = true) (areSpellableEntries · = true) :=
    { null := rfl
      bool := fun _ => rfl
      int := isSpellable_int.mpr
      float := fun _ => rfl
      str := fun _ => rfl
      list := areSpellable_iff.mpr
      nil := rfl
      insert := fun name each spellable =>
        areSpellableEntries_iff.mpr (@forall_mem_insert (·.isSpellable = true) (·.isSpellable = true)
          (.str name) _ _ (areSpellableEntries_iff.mp each) rfl spellable)
      map := id }
  exact Json.holds_of_decode kept decoded

private theorem areKeyedSpellably_iff {items : List Value} :
    areKeyedSpellably items = true ↔ ∀ item ∈ items, item.hasSpellableKeys = true := by
  induction items with
  | nil => simp [areKeyedSpellably]
  | cons item rest inductionHypothesis => simp [areKeyedSpellably, inductionHypothesis]

private theorem haveSpellableKeys_iff {entries : List (Value × Value)} :
    haveSpellableKeys entries = true ↔
      ∀ entry ∈ entries, entry.1.isSpellable = true ∧ entry.2.hasSpellableKeys = true := by
  induction entries with
  | nil => simp [haveSpellableKeys]
  | cons entry rest inductionHypothesis => simp [haveSpellableKeys, inductionHypothesis, and_assoc]

/-- The keys of a JSON value are texts. -/
theorem IsJson.hasSpellableKeys {value : Value} (isJson : value.IsJson) :
    value.hasSpellableKeys = true := by
  induction isJson with
  | list _ inductionHypothesis =>
      rw [Value.hasSpellableKeys, areKeyedSpellably_iff]
      exact inductionHypothesis
  | map keys _ inductionHypothesis =>
      rw [Value.hasSpellableKeys, haveSpellableKeys_iff]
      intro entry listed
      obtain ⟨name, isName⟩ := keys entry listed
      rw [isName]
      exact ⟨rfl, inductionHypothesis entry listed⟩
  | _ => rfl

end Value

/-! ## Writing -/

namespace Json

private theorem itemsObstacle?_eq_none_iff {items : List Value} :
    itemsObstacle? items = none ↔ ∀ item ∈ items, obstacle? item = none := by
  induction items with
  | nil => simp [itemsObstacle?]
  | cons item rest inductionHypothesis => simp [itemsObstacle?, inductionHypothesis]

theorem entriesObstacle?_eq_none_iff {entries : List (Value × Value)} :
    entriesObstacle? entries = none ↔
      ∀ entry ∈ entries, keyObstacle? entry.1 = none ∧ obstacle? entry.2 = none := by
  induction entries with
  | nil => simp [entriesObstacle?]
  | cons entry rest inductionHypothesis => simp [entriesObstacle?, inductionHypothesis]

/-- Entries with text keys can be written when their values can. -/
theorem entriesObstacle?_withTextKeys {entries : List (Value × Value)}
    (each : ∀ entry ∈ entries, obstacle? entry.2.withTextKeys = none) :
    entriesObstacle? (Value.ofPairs (Value.entriesWithTextKeys entries)) = none := by
  -- The entries before those still to put in can be written already.
  have onto : ∀ before : List (Value × Value), entriesObstacle? before = none →
      entriesObstacle? ((Value.entriesWithTextKeys entries).foldl
        (fun entries entry => Value.insert entry.1 entry.2 entries) before) = none := by
    induction entries with
    | nil => exact fun before writable => writable
    | cons entry rest inductionHypothesis =>
        obtain ⟨key, value⟩ := entry
        obtain ⟨valueWritable, restWritable⟩ := List.forall_mem_cons.mp each
        intro before writable
        rw [Value.entriesWithTextKeys, List.foldl_cons]
        refine inductionHypothesis restWritable _ (entriesObstacle?_eq_none_iff.mpr ?_)
        exact @Value.forall_mem_insert (keyObstacle? · = none) (obstacle? · = none) _ _ _
          (entriesObstacle?_eq_none_iff.mp writable) rfl valueWritable
  exact onto [] rfl

theorem itemsWithTextKeys_eq_map (items : List Value) :
    Value.itemsWithTextKeys items = items.map Value.withTextKeys := by
  induction items with
  | nil => rfl
  | cons item rest inductionHypothesis =>
      rw [Value.itemsWithTextKeys, inductionHypothesis, List.map_cons]

/-- A JSON value whose integers can be written can be written once its keys are texts. -/
theorem obstacle?_withTextKeys {value : Value} (isJson : value.IsJson)
    (spellable : value.isSpellable = true) : obstacle? value.withTextKeys = none := by
  induction isJson with
  | list _ inductionHypothesis =>
      rw [Value.isSpellable, Value.areSpellable_iff] at spellable
      rw [Value.withTextKeys, obstacle?, itemsWithTextKeys_eq_map, itemsObstacle?_eq_none_iff,
        List.forall_mem_map]
      exact fun item listed => inductionHypothesis item listed (spellable item listed)
  | map _ _ inductionHypothesis =>
      rw [Value.isSpellable, Value.areSpellableEntries_iff] at spellable
      rw [Value.withTextKeys, obstacle?]
      exact entriesObstacle?_withTextKeys fun entry listed =>
        inductionHypothesis entry listed (spellable entry listed).2
  | int number =>
      rw [Value.withTextKeys, obstacle?, scalarObstacle?, if_pos spellable] <;> simp
  | _ => rfl

end Json

namespace Rules

/-- A JSON node whose integers can be written has a JSON text, and the text is searched. -/
theorem namesRetryAfter_of_isJson {node : Node} (isJson : node.toValue.IsJson)
    (spellable : node.toValue.isSpellable = true) :
    namesRetryAfter node =
      .ok (Text.anyOccursIn retryAfterWords (Json.compact node.toValue.withTextKeys)) := by
  unfold namesRetryAfter
  simp only [isJson.hasSpellableKeys, Json.obstacle?_withTextKeys isJson spellable, Bool.not_true,
    Bool.false_eq_true, ↓reduceIte]

end Rules

end WorkflowLint
