import WorkflowLint.Proofs.MappingKeys
import WorkflowLint.Value.Merge

/-!
Contract: the mapping that comes of merging one mapping over another.

The entries of the second mapping are laid over the first one after another.  Null leaves what stands
under its key, a mapping is merged over it, and everything else takes its place.  From the step for one
entry follow what stands under each key and at the end of each way, the order of the keys, and that
the same mapping laid over a second time changes nothing.
-/

set_option autoImplicit false

namespace WorkflowLint.Value

/-! ## Laying one value over another -/

/-- A value that takes the place of what stands under its key: neither null nor a mapping. -/
def Replaces (value : Value) : Prop := value.isNull = false ∧ value.isMap = false

/-- The entries of what stands somewhere; none when nothing or no mapping stands there. -/
def innerEntries (old : Option Value) : List (Value × Value) :=
  (old.bind entries?).getD []

/-- What stands under a key after a value has been laid over what stood there. -/
def laid (old : Option Value) : Value → Option Value
  | .null => old
  | .map inner => some (.map (merge (innerEntries old) inner))
  | value => some value

/-- The entries after one entry has been laid over them. -/
def lay (base : List (Value × Value)) (key value : Value) : List (Value × Value) :=
  ((laid (lookup key base) value).map fun result => insert key result base).getD base

theorem laid_null (old : Option Value) : laid old .null = old := rfl

theorem laid_map (old : Option Value) (inner : List (Value × Value)) :
    laid old (.map inner) = some (.map (merge (innerEntries old) inner)) := rfl

theorem laid_of_replaces {value : Value} (replaces : value.Replaces) (old : Option Value) :
    laid old value = some value := by
  obtain ⟨noNull, noMap⟩ := replaces
  cases value with
  | null => cases noNull
  | map inner => cases noMap
  | _ => rfl

/-- A value is null, or a mapping, or it replaces. -/
theorem replaces_cases (value : Value) :
    value = .null ∨ (∃ inner, value = .map inner) ∨ value.Replaces := by
  cases value with
  | null => exact .inl rfl
  | map inner => exact .inr (.inl ⟨inner, rfl⟩)
  | _ => exact .inr (.inr ⟨rfl, rfl⟩)

theorem laid_isNone (old : Option Value) (value : Value) :
    (laid old value).isNone = (old.isNone && value.isNull) := by
  cases value with
  | null => simp [laid, isNull]
  | _ => simp [laid, isNull]

/-- Where laying gives what is there already, nothing changes. -/
theorem lay_of_kept {base : List (Value × Value)} {key value : Value}
    (kept : laid (lookup key base) value = lookup key base) : lay base key value = base := by
  rw [lay, kept]
  cases found : lookup key base with
  | none => rfl
  | some old => exact insert_of_lookup found

private theorem entriesAt_eq (key : Value) (base : List (Value × Value)) :
    entriesAt key base = innerEntries (lookup key base) := by
  rw [entriesAt, innerEntries]
  cases lookup key base with
  | none => rfl
  | some old => cases old <;> rfl

theorem merge_cons (base : List (Value × Value)) (key value : Value) (rest : List (Value × Value)) :
    merge base ((key, value) :: rest) = merge (lay base key value) rest := by
  rcases replaces_cases value with rfl | ⟨inner, rfl⟩ | replaces
  · rw [merge, overlay, lay_of_kept (laid_null _)]
  · rw [merge, overlay, lay, laid_map, entriesAt_eq]
    rfl
  · rw [merge, lay, laid_of_replaces replaces, overlay]
    · rfl
    · rintro rfl
      cases replaces.1
    · rintro inner rfl
      cases replaces.2

/-- Laying an entry keeps the keys in their places; a new key comes last, unless it has null. -/
theorem keys_lay (base : List (Value × Value)) (key value : Value) :
    (lay base key value).map Prod.fst =
      base.map Prod.fst ++ if (lookup key base).isNone && !value.isNull then [key] else [] := by
  rw [lay]
  cases result : laid (lookup key base) value with
  | none =>
      have isNone := laid_isNone (lookup key base) value
      rw [result, Option.isNone_none, eq_comm, Bool.and_eq_true] at isNone
      simp [isNone.2]
  | some new =>
      rw [Option.map_some, Option.getD_some, keys_insert]
      have isSome := laid_isNone (lookup key base) value
      rw [result, Option.isNone_some] at isSome
      cases absent : (lookup key base).isNone with
      | false => rfl
      | true =>
          rw [absent, Bool.true_and] at isSome
          rw [← isSome]
          rfl

section Lookup

variable {base : List (Value × Value)} (baseKeys : ∀ entry ∈ base, entry.1.isKey = true)
include baseKeys

private theorem lookup_congr {key other : Value} (isKey : key.isKey = true)
    (otherKey : other.isKey = true)
    (same : key.same other = true) : lookup key base = lookup other base := by
  induction base with
  | nil => rfl
  | cons entry rest inductionHypothesis =>
      rw [lookup, lookup, same_congr_of_isKey isKey otherKey same,
        inductionHypothesis (List.forall_mem_cons.mp baseKeys).2]

theorem lookup_lay {key other : Value} (isKey : key.isKey = true) (otherKey : other.isKey = true)
    (value : Value) :
    lookup key (lay base other value) =
      if key.same other then laid (lookup key base) value else lookup key base := by
  have inserted (result : Value) := @lookup_insert key other result base isKey otherKey baseKeys
  rw [lay]
  by_cases same : key.same other = true
  · have sameOld := lookup_congr baseKeys isKey otherKey same
    rw [if_pos same, sameOld]
    cases result : laid (lookup other base) value with
    | none =>
        have isNone := laid_isNone (lookup other base) value
        rw [result, Option.isNone_none, eq_comm, Bool.and_eq_true] at isNone
        rw [Option.map_none, Option.getD_none, sameOld]
        exact Option.isNone_iff_eq_none.mp isNone.1
    | some new => rw [Option.map_some, Option.getD_some, inserted, if_pos same]
  · rw [if_neg same]
    cases laid (lookup other base) value with
    | none => rfl
    | some new => rw [Option.map_some, Option.getD_some, inserted, if_neg same]

theorem isKey_lay {key : Value} (isKey : key.isKey = true) (value : Value) :
    ∀ entry ∈ lay base key value, entry.1.isKey = true := by
  have onKeys : ∀ other ∈ (lay base key value).map Prod.fst, other.isKey = true := by
    rw [keys_lay]
    intro other listed
    rcases List.mem_append.mp listed with old | new
    · obtain ⟨entry, member, rfl⟩ := List.mem_map.mp old
      exact baseKeys entry member
    · split at new
      · rw [List.mem_singleton.mp new]
        exact isKey
      · cases new
  exact fun entry member => onKeys entry.1 (List.mem_map_of_mem member)

end Lookup

/-! ## One mapping over another -/

section Merge

variable {base override : List (Value × Value)}

/-- Under each key stands what the second mapping has there, laid over what the first has. -/
theorem lookup_merge (baseKeys : ∀ entry ∈ base, entry.1.isKey = true) (each : AreKeyed override)
    {key : Value} (isKey : key.isKey = true) :
    lookup key (merge base override) =
      laid (lookup key base) ((lookup key override).getD .null) := by
  induction override generalizing base with
  | nil => rw [merge, lookup, Option.getD_none, laid_null]
  | cons entry rest inductionHypothesis =>
      obtain ⟨other, value⟩ := entry
      have otherKey : other.isKey = true := each.keys _ List.mem_cons_self
      have others := inductionHypothesis (isKey_lay baseKeys otherKey value) each.tail
      rw [merge_cons, others, lookup_lay baseKeys isKey otherKey, lookup]
      by_cases same : key.same other = true
      · -- No later entry has the key, so the rest leaves what this entry put there.
        have later : lookup key rest = none := by
          rw [lookup_eq_none_iff]
          intro entry member
          rw [same_congr_of_isKey isKey otherKey same]
          exact (List.pairwise_cons.mp each.distinct).1 entry member
        rw [if_pos same, if_pos same, later, Option.getD_none, Option.getD_some, laid_null]
      · rw [if_neg same, if_neg same]

/-- The keys that come new with the second mapping, in its order; null brings none. -/
def newKeys (base override : List (Value × Value)) : List Value :=
  (override.filter fun entry => (lookup entry.1 base).isNone && !entry.2.isNull).map Prod.fst

/-- The keys of the first mapping keep their order, and the new ones follow. -/
theorem keys_merge (baseKeys : ∀ entry ∈ base, entry.1.isKey = true) (each : AreKeyed override) :
    (merge base override).map Prod.fst = base.map Prod.fst ++ newKeys base override := by
  induction override generalizing base with
  | nil => rw [merge, newKeys, List.filter_nil, List.map_nil, List.append_nil]
  | cons entry rest inductionHypothesis =>
      obtain ⟨key, value⟩ := entry
      have isKey : key.isKey = true := each.keys _ List.mem_cons_self
      have sameNew : newKeys (lay base key value) rest = newKeys base rest := by
        refine congrArg _ (List.filter_congr fun entry member => ?_)
        have entryKey := each.tail.keys entry member
        have apart : entry.1.same key = false := by
          rw [same_comm_of_isKey entryKey isKey]
          exact (List.pairwise_cons.mp each.distinct).1 entry member
        rw [lookup_lay baseKeys entryKey isKey, if_neg (Bool.eq_false_iff.mp apart)]
      rw [merge_cons, inductionHypothesis (isKey_lay baseKeys isKey value) each.tail, sameNew,
        keys_lay, newKeys, newKeys, List.filter_cons, List.append_assoc]
      split <;> rfl

theorem lookup_of_mem (each : AreKeyed override) {entry : Value × Value} (member : entry ∈ override) :
    lookup entry.1 override = some entry.2 := by
  induction override with
  | nil => cases member
  | cons first rest inductionHypothesis =>
      have entryKey := each.keys entry member
      rw [lookup]
      rcases List.mem_cons.mp member with rfl | later
      · rw [if_pos (keyShape_of_isKey entryKey).same_refl]
      · have firstKey := each.keys first List.mem_cons_self
        have apart : entry.1.same first.1 = false := by
          rw [same_comm_of_isKey entryKey firstKey]
          exact (List.pairwise_cons.mp each.distinct).1 entry later
        rw [if_neg (Bool.eq_false_iff.mp apart), inductionHypothesis each.tail later]

/-- A mapping over which each entry lays what is there already stays as it is. -/
theorem merge_of_kept (kept : ∀ entry ∈ override, laid (lookup entry.1 base) entry.2 =
    lookup entry.1 base) : merge base override = base := by
  induction override with
  | nil => rw [merge]
  | cons entry rest inductionHypothesis =>
      obtain ⟨own, others⟩ := List.forall_mem_cons.mp kept
      rw [merge_cons, lay_of_kept own, inductionHypothesis others]

theorem areKeyed_innerEntries {old : Option Value} (each : ∀ value, old = some value → value.IsKeyed) :
    AreKeyed (innerEntries old) := by
  cases old with
  | none => exact areKeyed_nil
  | some value =>
      cases value with
      | map inner => exact isKeyed_map_iff.mp (each _ rfl)
      | _ => exact areKeyed_nil

/-- The same mapping laid over a second time changes nothing. -/
theorem merge_merge {value : Value} (isKeyed : value.IsKeyed) (isMapping : value = .map override)
    (baseKeyed : AreKeyed base) : merge (merge base override) override = merge base override := by
  induction isKeyed generalizing base override with
  | other noMap =>
      rw [isMapping] at noMap
      cases noMap
  | @map entries keys distinct values inductionHypothesis =>
      cases isMapping
      have each : AreKeyed entries := ⟨keys, distinct, values⟩
      refine merge_of_kept fun entry member => ?_
      have stands := lookup_merge baseKeyed.keys each (keys entry member)
      rw [lookup_of_mem each member, Option.getD_some] at stands
      rw [stands]
      rcases replaces_cases entry.2 with isNull | ⟨inner, isMap⟩ | replaces
      · rw [isNull, laid_null]
      · rw [isMap, laid_map, laid_map]
        have oldKeyed : AreKeyed (innerEntries (lookup entry.1 base)) :=
          areKeyed_innerEntries fun value found => baseKeyed.lookup found
        exact congrArg (fun entries => some (map entries))
          (inductionHypothesis entry member isMap oldKeyed)
      · rw [laid_of_replaces replaces, laid_of_replaces replaces]

end Merge

/-! ## Ways through merged mappings -/

theorem bind_valueAt_nil (old : Option Value) : old.bind (valueAt []) = old := by
  cases old <;> rfl

/-- A way that goes on past a value leads on through its entries, if it has some. -/
theorem valueAt_innerEntries (old : Option Value) {way : List Value} (goesOn : way ≠ []) :
    valueAt way (.map (innerEntries old)) = old.bind (valueAt way) := by
  have nothing : valueAt way (.map []) = none := by
    cases way with
    | nil => exact absurd rfl goesOn
    | cons key rest => rfl
  cases old with
  | none => exact nothing
  | some value =>
      cases value with
      | map inner => rfl
      | _ => exact nothing.trans (valueAt_of_noMap rfl goesOn).symm

/-- A value that takes the place of whatever stands at the end of a way. -/
def ReplacedAt (override : List (Value × Value)) (way : List Value) (value : Value) : Prop :=
  way ≠ [] ∧ valueAt way (.map override) = some value ∧ value.Replaces

/-- A way to a value that does not replace leads past none that does. -/
theorem not_replacedAt_of_valueAt {override : List (Value × Value)} {way : List Value} {value : Value}
    (found : valueAt way (.map override) = some value) (noReplace : ¬ value.Replaces) :
    ∀ start other, start <+: way → ¬ ReplacedAt override start other := by
  rintro start other ⟨rest, rfl⟩ ⟨_, before, replaces⟩
  rw [valueAt_append, before, Option.bind_some] at found
  by_cases atEnd : rest = []
  · subst atEnd
    cases found
    exact noReplace replaces
  · rw [valueAt_of_noMap replaces.2 atEnd] at found
    cases found

section Ways

variable {base override : List (Value × Value)} (baseKeyed : AreKeyed base)
  (each : AreKeyed override)
include baseKeyed each

/-- Where the second mapping has a value, that is laid over what the first has there. -/
theorem valueAt_merge {way : List Value} (goesOn : way ≠ []) (keys : ∀ key ∈ way, key.isKey = true)
    {new : Value} (found : valueAt way (.map override) = some new) :
    valueAt way (.map (merge base override)) = laid (valueAt way (.map base)) new := by
  induction way generalizing base override with
  | nil => exact absurd rfl goesOn
  | cons key rest inductionHypothesis =>
      obtain ⟨isKey, restKeys⟩ := List.forall_mem_cons.mp keys
      obtain ⟨value, under, further⟩ := Option.bind_eq_some_iff.mp found
      rw [valueAt_cons_map, valueAt_cons_map, lookup_merge baseKeyed.keys each isKey, under,
        Option.getD_some]
      by_cases atEnd : rest = []
      · subst atEnd
        cases further
        rw [bind_valueAt_nil, bind_valueAt_nil]
      · -- A way that goes on leads through a mapping, which is merged over what is there.
        cases value with
        | map inner =>
            have oldKeyed : AreKeyed (innerEntries (lookup key base)) :=
              areKeyed_innerEntries fun value found => baseKeyed.lookup found
            have innerKeyed := isKeyed_map_iff.mp (each.lookup under)
            rw [laid_map, Option.bind_some, ← valueAt_innerEntries _ atEnd]
            exact inductionHypothesis oldKeyed innerKeyed atEnd restKeys further
        | _ =>
            rw [valueAt_of_noMap rfl atEnd] at further
            cases further

/-- Where the second mapping has nothing, and nothing on the way takes another's place, the value of
the first stays. -/
theorem valueAt_merge_of_absent {way : List Value} (keys : ∀ key ∈ way, key.isKey = true)
    (absent : valueAt way (.map override) = none)
    (kept : ∀ start value, start <+: way → ¬ ReplacedAt override start value) :
    valueAt way (.map (merge base override)) = valueAt way (.map base) := by
  induction way generalizing base override with
  | nil => cases absent
  | cons key rest inductionHypothesis =>
      obtain ⟨isKey, restKeys⟩ := List.forall_mem_cons.mp keys
      rw [valueAt_cons_map, valueAt_cons_map, lookup_merge baseKeyed.keys each isKey]
      cases under : lookup key override with
      | none => rw [Option.getD_none, laid_null]
      | some value =>
          rw [Option.getD_some]
          rw [valueAt_cons_map, under, Option.bind_some] at absent
          rcases replaces_cases value with rfl | ⟨inner, rfl⟩ | replaces
          · rw [laid_null]
          · have goesOn : rest ≠ [] := by
              rintro rfl
              cases absent
            have oldKeyed : AreKeyed (innerEntries (lookup key base)) :=
              areKeyed_innerEntries fun value found => baseKeyed.lookup found
            have innerKeyed := isKeyed_map_iff.mp (each.lookup under)
            rw [laid_map, Option.bind_some, ← valueAt_innerEntries _ goesOn]
            refine inductionHypothesis oldKeyed innerKeyed restKeys absent ?_
            rintro start value isPrefix ⟨_, found, replaces⟩
            refine kept (key :: start) value (List.cons_prefix_cons.mpr ⟨rfl, isPrefix⟩) ?_
            refine ⟨List.cons_ne_nil _ _, ?_, replaces⟩
            rw [valueAt_cons_map, under]
            exact found
          · have isReplaced : ReplacedAt override [key] value := by
              refine ⟨List.cons_ne_nil _ _, ?_, replaces⟩
              rw [valueAt_cons_map, under]
              rfl
            exact absurd isReplaced (kept [key] value ⟨rest, rfl⟩)

/-- Past a value that takes another's place there is nothing. -/
theorem valueAt_merge_of_replaced {start rest : List Value}
    (keys : ∀ key ∈ start, key.isKey = true) {value : Value}
    (replaced : ReplacedAt override start value) :
    valueAt (start ++ rest) (.map (merge base override)) = valueAt rest value := by
  obtain ⟨goesOn, found, replaces⟩ := replaced
  rw [valueAt_append, valueAt_merge baseKeyed each goesOn keys found, laid_of_replaces replaces,
    Option.bind_some]

/-- A mapping of the second is merged over what the first has at the same place. -/
theorem merged_keys_at {way : List Value} (keys : ∀ key ∈ way, key.isKey = true)
    {inner : List (Value × Value)} (found : valueAt way (.map override) = some (.map inner)) :
    ∃ merged, valueAt way (.map (merge base override)) = some (.map merged) ∧
      merged.map Prod.fst = (innerEntries (valueAt way (.map base))).map Prod.fst ++
        newKeys (innerEntries (valueAt way (.map base))) inner := by
  have innerKeyed := isKeyed_map_iff.mp ((isKeyed_map_iff.mpr each).valueAt found)
  have oldKeyed : AreKeyed (innerEntries (valueAt way (.map base))) :=
    areKeyed_innerEntries fun value found => (isKeyed_map_iff.mpr baseKeyed).valueAt found
  refine ⟨merge (innerEntries (valueAt way (.map base))) inner, ?_,
    keys_merge oldKeyed.keys innerKeyed⟩
  by_cases atRoot : way = []
  · subst atRoot
    cases found
    rfl
  · rw [valueAt_merge baseKeyed each atRoot keys found, laid_map]

end Ways

/-- What merging one mapping over another gives at the end of a way.  A value of the second mapping
that is neither null nor a mapping stands there, and nothing below it.  Where no such value stands on
the way, a mapping of the second gives a mapping, and else the first mapping keeps what it has.  At
every depth the keys of the first mapping keep their order, and new ones follow in the order of the
second.  Merging the second mapping again changes nothing. -/
theorem merge_lays_over {base override : List (Value × Value)}
    (baseKeyed : (Value.map base).IsKeyed) (overrideKeyed : (Value.map override).IsKeyed) :
    (∀ way : List Value, way ≠ [] → (∀ key ∈ way, key.isKey = true) →
      (∀ start value, start <+: way → ReplacedAt override start value →
        (start = way → valueAt way (.map (merge base override)) = some value) ∧
        (start ≠ way → valueAt way (.map (merge base override)) = none)) ∧
      ((∀ start value, start <+: way → ¬ ReplacedAt override start value) →
        (∀ inner, valueAt way (.map override) = some (.map inner) →
          ∃ merged, valueAt way (.map (merge base override)) = some (.map merged)) ∧
        ((∀ inner, valueAt way (.map override) ≠ some (.map inner)) →
          valueAt way (.map (merge base override)) = valueAt way (.map base)))) ∧
    (∀ way inner, (∀ key ∈ way, key.isKey = true) →
      valueAt way (.map override) = some (.map inner) →
      ∃ merged, valueAt way (.map (merge base override)) = some (.map merged) ∧
        merged.map Prod.fst = (innerEntries (valueAt way (.map base))).map Prod.fst ++
          newKeys (innerEntries (valueAt way (.map base))) inner) ∧
    merge (merge base override) override = merge base override := by
  have baseEach := isKeyed_map_iff.mp baseKeyed
  have each := isKeyed_map_iff.mp overrideKeyed
  refine ⟨fun way goesOn keys => ⟨?_, fun kept => ⟨?_, ?_⟩⟩, ?_, ?_⟩
  · intro start value isPrefix replaced
    obtain ⟨rest, rfl⟩ := isPrefix
    have startKeys : ∀ key ∈ start, key.isKey = true :=
      fun key member => keys key (List.mem_append_left rest member)
    rw [valueAt_merge_of_replaced baseEach each startKeys replaced]
    constructor
    · intro whole
      rw [List.self_eq_append_right.mp whole]
      rfl
    · intro shorter
      refine valueAt_of_noMap replaced.2.2.2 ?_
      rintro rfl
      exact shorter (List.append_nil start).symm
  · intro inner found
    exact ⟨_, valueAt_merge baseEach each goesOn keys found⟩
  · intro noMapping
    cases found : valueAt way (.map override) with
    | none => exact valueAt_merge_of_absent baseEach each keys found kept
    | some value =>
        rw [valueAt_merge baseEach each goesOn keys found]
        rcases replaces_cases value with rfl | ⟨inner, rfl⟩ | replaces
        · rw [laid_null]
        · exact absurd found (noMapping inner)
        · exact absurd ⟨goesOn, found, replaces⟩ (kept way value List.prefix_rfl)
  · intro way inner keys found
    exact merged_keys_at baseEach each keys found
  · exact merge_merge overrideKeyed rfl baseEach

/-- Two mappings in a mapping. -/
def layeredBase : List (Value × Value) :=
  [(.str "limits", .record [("count", .int 3), ("hosts", .list [.str "x"])]),
    (.str "mode", .record [("fast", .bool true)])]

/-- Lays a text over a mapping, null over a list and a mapping over a number, and brings new keys. -/
def layeredOverride : List (Value × Value) :=
  [(.str "extra", .list []), (.str "mode", .str "slow"), (.str "gone", .null),
    (.str "limits", .record [("hosts", .null), ("count", .record [])])]

private theorem layeredBase_isKeyed : (Value.map layeredBase).IsKeyed := by
  have limits : (record [("count", .int 3), ("hosts", .list [.str "x"])]).IsKeyed :=
    isKeyed_record (by decide) ⟨.other rfl, .other rfl⟩
  have mode : (record [("fast", .bool true)]).IsKeyed := isKeyed_record (by decide) (.other rfl)
  exact @isKeyed_record [("limits", _), ("mode", _)] (by decide) ⟨limits, mode⟩

private theorem layeredOverride_isKeyed : (Value.map layeredOverride).IsKeyed := by
  have count : (record []).IsKeyed := isKeyed_record (by decide) trivial
  have limits : (record [("hosts", .null), ("count", .record [])]).IsKeyed :=
    isKeyed_record (by decide) ⟨.other rfl, count⟩
  exact @isKeyed_record [("extra", _), ("mode", _), ("gone", _), ("limits", _)] (by decide)
    ⟨.other rfl, .other rfl, .other rfl, limits⟩

/-- The text stands in place of the mapping and nothing below it, the list stays, the number gives way
to a mapping, and null brings no key. -/
theorem merge_lays_over_layers :
    valueAt [.str "mode"] (.map (merge layeredBase layeredOverride)) = some (.str "slow") ∧
    valueAt [.str "mode", .str "fast"] (.map (merge layeredBase layeredOverride)) = none ∧
    valueAt [.str "limits", .str "hosts"] (.map (merge layeredBase layeredOverride)) =
      some (.list [.str "x"]) ∧
    (∃ merged, valueAt [.str "limits", .str "count"] (.map (merge layeredBase layeredOverride)) =
      some (.map merged)) ∧
    (merge layeredBase layeredOverride).map Prod.fst =
      [.str "limits", .str "mode", .str "extra"] ∧
    merge (merge layeredBase layeredOverride) layeredOverride =
      merge layeredBase layeredOverride := by
  obtain ⟨atWay, order, again⟩ := merge_lays_over layeredBase_isKeyed layeredOverride_isKeyed
  have replaced : ReplacedAt layeredOverride [.str "mode"] (.str "slow") :=
    ⟨by simp, by simp [valueAt, lookup_str, lookupText, layeredOverride], rfl, rfl⟩
  have mode := (atWay [.str "mode"] (by simp) (by simp [isKey])).1 _ _ List.prefix_rfl replaced
  have fast := (atWay [.str "mode", .str "fast"] (by simp) (by simp [isKey])).1 _ _
    ⟨[.str "fast"], rfl⟩ replaced
  have hosts : valueAt [.str "limits", .str "hosts"] (.map layeredOverride) = some .null := by
    simp [valueAt, lookup_str, lookupText, layeredOverride, record]
  have count : valueAt [.str "limits", .str "count"] (.map layeredOverride) = some (.map []) := by
    simp [valueAt, lookup_str, lookupText, layeredOverride, record]
  have hostsKept := ((atWay _ (by simp) (by simp [isKey])).2
    (not_replacedAt_of_valueAt hosts (by simp [Replaces, isNull]))).2 (by simp [hosts])
  have countMerged := ((atWay _ (by simp) (by simp [isKey])).2
    (not_replacedAt_of_valueAt count (by simp [Replaces, isMap]))).1 _ count
  obtain ⟨merged, isMerged, keys⟩ := order [] _ (by simp) rfl
  cases isMerged
  refine ⟨mode.1 rfl, fast.2 (by simp), hostsKept.trans ?_, countMerged, keys.trans ?_, again⟩
  · simp [valueAt, lookup_str, lookupText, layeredBase, record]
  · simp [newKeys, innerEntries, valueAt, entries?, lookup_str, lookupText, layeredBase,
      layeredOverride, isNull]

end WorkflowLint.Value
