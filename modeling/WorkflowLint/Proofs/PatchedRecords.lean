import WorkflowLint.Config.Checked
import WorkflowLint.Proofs.JsonRoundTrip
import WorkflowLint.Proofs.MergedMappings

/-!
Contract: records that are read after a patch has been laid over them.

A record is read field by field, each field from the entry of its name.  Where the patch says nothing,
or null, the record shows what it showed without the patch; where the patch has a value of the field's
own kind, the record shows that value.  Both hold along every way of field names, through records in
records.
-/

set_option autoImplicit false

namespace WorkflowLint

open Value (valueAt laid merge entriesOf lookup lookupText readBool readInt readText readTexts readOptional
  readField readRecord)

/-! ## Readings that fit -/

namespace Checked

variable {α β : Type}

/-- What a reading that fits gives is good. -/
def Yields (good : α → Prop) (reading : Checked α) : Prop :=
  ∀ value, reading = .fits value → good value

theorem yields_map {good : β → Prop} {change : α → β} {reading : Checked α}
    (each : ∀ value, reading = .fits value → good (change value)) :
    Yields good (reading.map change) := by
  intro result fits
  cases reading with
  | fits value =>
      cases fits
      exact each value rfl
  | fails details => cases fits

theorem Yields.apply {good : β → Prop} {function : Checked (α → β)} {argument : Checked α}
    (each : Yields (fun change => ∀ value, argument = .fits value → good (change value)) function) :
    Yields good (function.apply argument) := by
  intro result fits
  cases function with
  | fits change =>
      cases argument with
      | fits value =>
          cases fits
          exact each change rfl value rfl
      | fails details => cases fits
  | fails details => cases argument <;> cases fits

private theorem fits_of_under {step : Step} {reading : Checked α} {value : α}
    (fits : reading.under step = .fits value) : reading = .fits value := by
  cases reading with
  | fits own =>
      cases fits
      rfl
  | fails details => cases fits

end Checked

/-! ## Records -/

/-- A field of a record: its name, what it holds, and how it is read and shown. -/
structure RecordField (α : Type) where
  kind : Type
  name : String
  content : α → kind
  /-- What it holds when it is absent. -/
  usual : kind
  read : Value → Checked kind
  view : kind → Value

/-- A record is read from a mapping field by field, and shown field by field. -/
structure GoesByFields {α : Type} (fields : List (RecordField α)) (read : Value → Checked α)
    (view : α → Value) : Prop where
  reads : ∀ {given content}, read given = .fits content →
    ∃ entries, given = .map entries ∧ fields.Forall fun field =>
      readField entries field.name field.usual field.read = .fits (field.content content)
  views : ∀ content, view content =
    .record (fields.map fun field => (field.name, field.view (field.content content)))

section Records

variable {α : Type} {fields : List (RecordField α)} {name : String}
  {body : List (Value × Value) → Checked α} {view : α → Value}

theorem goesByFields_of_yields
    (reads : ∀ entries, (body entries).Yields fun content => fields.Forall fun field =>
      readField entries field.name field.usual field.read = .fits (field.content content))
    (views : ∀ content, view content =
      .record (fields.map fun field => (field.name, field.view (field.content content)))) :
    GoesByFields fields (readRecord name body) view := by
  refine ⟨?_, views⟩
  intro given content fits
  cases given with
  | map entries => exact ⟨entries, rfl, reads entries content fits⟩
  | _ => cases fits

end Records

/-! ## Following a patch -/

/-- What stands at the end of a way of field names. -/
def fieldAt (way : List String) (value : Value) : Option Value :=
  valueAt (way.map .str) value

theorem fieldAt_of_noMap {value : Value} (noMap : value.isMap = false) (name : String)
    (rest : List String) : fieldAt (name :: rest) value = none :=
  Value.valueAt_of_noMap noMap (List.cons_ne_nil _ _)

theorem fieldAt_cons_map (name : String) (rest : List String) (entries : List (Value × Value)) :
    fieldAt (name :: rest) (.map entries) = (lookupText name entries).bind (fieldAt rest) := by
  rw [← Value.lookup_str]
  rfl

theorem fieldAt_cons_record (name : String) (rest : List String) (field : String × Value)
    (others : List (String × Value)) :
    fieldAt (name :: rest) (.record (field :: others)) =
      if name = field.1 then fieldAt rest field.2 else fieldAt (name :: rest) (.record others) := by
  rw [Value.record, Value.record, fieldAt_cons_map, fieldAt_cons_map]
  by_cases isIt : name = field.1 <;> simp [lookupText, isIt]

theorem isNull_iff {value : Value} : value.isNull = true ↔ value = .null := by
  cases value <;> simp [Value.isNull]

/-- Nothing is mentioned, or null. -/
def IsSilent (mention : Option Value) : Prop := ∀ content, mention = some content → content = .null

/-- Two values of one of the kinds that a setting can have. -/
inductive SameKind : Value → Value → Prop where
  | bool (old new : Bool) : SameKind (.bool old) (.bool new)
  | int (old new : Int) : SameKind (.int old) (.int new)
  | str (old new : String) : SameKind (.str old) (.str new)
  | texts (old new : List String) : SameKind (.texts old) (.texts new)

theorem SameKind.replaces {old new : Value} (sameKind : SameKind old new) : new.Replaces := by
  cases sameKind <;> exact ⟨rfl, rfl⟩

/-- What is shown at a place follows what a patch mentions there. -/
structure Follows (mention old new : Option Value) : Prop where
  kept : IsSilent mention → new = old
  taken : ∀ {before content}, old = some before → mention = some content →
    SameKind before content → new = some content

theorem follows_absent (mention : Option Value) : Follows mention none none := by
  refine ⟨fun _ => rfl, fun found => ?_⟩
  cases found

/-- A patch that replaces nothing here leaves everything. -/
theorem follows_same {mention : Option Value} (old : Option Value)
    (replacesNot : ∀ content, mention = some content → ¬ content.Replaces) : Follows mention old old :=
  ⟨fun _ => rfl, fun _ mentioned sameKind =>
    absurd sameKind.replaces (replacesNot _ mentioned)⟩

private theorem follows_null (way : List String) (old : Option Value) : Follows
    (fieldAt way .null) old old := by
  refine follows_same old fun content mentioned replaces => ?_
  cases way with
  | nil =>
      cases mentioned
      cases replaces.1
  | cons name rest => cases mentioned

/-- With a patch laid over the usual value, the view of what is read follows the patch. -/
def FollowsPatch {α : Type} (read : Value → Checked α) (view : α → Value) (usual : Value) : Prop :=
  ∀ ⦃patch given : Value⦄ ⦃before after : α⦄, patch.IsKeyed → laid (some usual) patch = some given →
    read usual = .fits before → read given = .fits after →
    ∀ way, Follows (fieldAt way patch) (fieldAt way (view before)) (fieldAt way (view after))

/-- A setting that has no fields, and that shows a value of its own kind as it was given. -/
structure IsSetting {α : Type} (read : Value → Checked α) (view : α → Value) : Prop where
  flat : ∀ content, (view content).isMap = false
  exact : ∀ {before given after}, SameKind (view before) given → read given = .fits after →
    view after = given

section Settings

variable {α : Type} {read : Value → Checked α} {view : α → Value} {usual : Value}

theorem IsSetting.followsPatch (isSetting : IsSetting read view) : FollowsPatch read view usual := by
  intro patch given before after _ lays readsUsual reads way
  cases way with
  | nil =>
      constructor
      · intro silent
        cases silent patch rfl
        cases lays
        cases readsUsual.symm.trans reads
        rfl
      · intro old content isOld mentioned sameKind
        cases isOld
        cases mentioned
        rw [Value.laid_of_replaces sameKind.replaces] at lays
        cases lays
        exact congrArg some (isSetting.exact sameKind reads)
  | cons name rest =>
      -- The way leads out of the setting, with the patch and without it.
      rw [fieldAt_of_noMap (isSetting.flat before), fieldAt_of_noMap (isSetting.flat after)]
      exact follows_absent _

theorem readOptional_eq_fits {value : Value} (filled : value.isNull = false) {content : Option α}
    (reads : readOptional read value = .fits content) :
    ∃ inner, content = some inner ∧ read value = .fits inner := by
  have made : readOptional read value = (read value).map some := by
    cases value with
    | null => cases filled
    | _ => rfl
  rw [made] at reads
  cases isRead : read value with
  | fits inner =>
      rw [isRead] at reads
      cases reads
      exact ⟨inner, rfl, rfl⟩
  | fails details =>
      rw [isRead] at reads
      cases reads

theorem isSetting_bool : IsSetting readBool .bool := by
  refine ⟨fun _ => rfl, fun sameKind reads => ?_⟩
  cases sameKind
  cases reads
  rfl

theorem isSetting_int : IsSetting readInt .int := by
  refine ⟨fun _ => rfl, fun sameKind reads => ?_⟩
  cases sameKind
  cases reads
  rfl

theorem isSetting_text : IsSetting readText .str := by
  refine ⟨fun _ => rfl, fun sameKind reads => ?_⟩
  cases sameKind
  cases reads
  rfl

private theorem items_readText (index : Nat) (items : List String) :
    Checked.items readText index (items.map .str) = .fits items := by
  induction items generalizing index with
  | nil => rfl
  | cons item rest inductionHypothesis =>
      rw [List.map_cons, Checked.items, inductionHypothesis]
      rfl

theorem isSetting_texts : IsSetting readTexts .texts := by
  refine ⟨fun _ => rfl, @fun before given after sameKind reads => ?_⟩
  generalize shown : Value.texts before = old at sameKind
  cases sameKind with
  | texts _ new =>
      have exactly : readTexts (.texts new) = .fits new := items_readText 0 new
      cases exactly.symm.trans reads
      rfl
  | _ => cases shown

theorem IsSetting.optional (isSetting : IsSetting read view) :
    IsSetting (readOptional read) fun given => (given.map view).getD .null := by
  constructor
  · intro content
    cases content with
    | none => rfl
    | some inner => exact isSetting.flat inner
  · intro before given after sameKind reads
    cases before with
    | none => cases sameKind
    | some inner =>
        obtain ⟨own, rfl, ownRead⟩ := readOptional_eq_fits sameKind.replaces.1 reads
        exact isSetting.exact sameKind ownRead

private theorem laid_some_isNull {patch given : Value} (filled : usual.isNull = false)
    (lays : laid (some usual) patch = some given) : given.isNull = false := by
  rcases Value.replaces_cases patch with rfl | ⟨inner, rfl⟩ | replaces
  · cases lays
    exact filled
  · cases lays
    rfl
  · rw [Value.laid_of_replaces replaces] at lays
    cases lays
    exact replaces.1

/-- A field that may be null, and usually is not, follows as its content does. -/
theorem FollowsPatch.optional {optionalView : Option α → Value} (filled : usual.isNull = false)
    (viewSome : ∀ content, optionalView (some content) = view content)
    (follows : FollowsPatch read view usual) :
    FollowsPatch (readOptional read) optionalView usual := by
  intro patch given before after isKeyed lays readsUsual reads way
  obtain ⟨inner, rfl, innerRead⟩ := readOptional_eq_fits filled readsUsual
  obtain ⟨other, rfl, otherRead⟩ := readOptional_eq_fits (laid_some_isNull filled lays) reads
  rw [viewSome, viewSome]
  exact follows isKeyed lays innerRead otherRead way

end Settings

section RecordsOfFields

variable {α : Type} {fields : List (RecordField α)}

/-- Two records of the same fields follow as the fields do that start the way. -/
theorem follows_record {first second : RecordField α → Value} {mention : Option Value} {name : String}
    {rest : List String} (each : ∀ field ∈ fields, name = field.name →
      Follows mention (fieldAt rest (first field)) (fieldAt rest (second field))) :
    Follows mention
      (fieldAt (name :: rest) (.record (fields.map fun field => (field.name, first field))))
      (fieldAt (name :: rest) (.record (fields.map fun field => (field.name, second field)))) := by
  induction fields with
  | nil => exact follows_absent mention
  | cons field others inductionHypothesis =>
      obtain ⟨here, after⟩ := List.forall_mem_cons.mp each
      rw [List.map_cons, List.map_cons, fieldAt_cons_record, fieldAt_cons_record]
      by_cases isIt : name = field.name
      · rw [if_pos isIt, if_pos isIt]
        exact here isIt
      · rw [if_neg isIt, if_neg isIt]
        exact inductionHypothesis after

/-- An entry that a patch does not have counts as null. -/
theorem Follows.of_entry {entries : List (Value × Value)} {name : String} {rest : List String}
    {old new : Option Value}
    (follows : Follows (fieldAt rest ((lookupText name entries).getD .null)) old new) :
    Follows (fieldAt (name :: rest) (.map entries)) old new := by
  rw [fieldAt_cons_map]
  cases given : lookupText name entries with
  | some value =>
      rw [given] at follows
      exact follows
  | none =>
      rw [given] at follows
      have unchanged : new = old := follows.kept fun content mentioned => by
        cases rest with
        | nil =>
            cases mentioned
            rfl
        | cons => cases mentioned
      subst unchanged
      exact follows_same _ fun _ mentioned => absurd mentioned (by simp)

theorem fits_of_readField {kind : Type} {entries : List (Value × Value)} {name : String}
    {usual content : kind} {read : Value → Checked kind} {value : Value}
    (found : lookupText name entries = some value)
    (reads : readField entries name usual read = .fits content) : read value = .fits content := by
  rw [readField, found] at reads
  exact Checked.fits_of_under reads

private theorem isKeyed_lookupText {entries : List (Value × Value)} (each : Value.AreKeyed entries)
    (name : String) : ((lookupText name entries).getD .null).IsKeyed := by
  cases given : lookupText name entries with
  | some value => exact each.lookup ((Value.lookup_str _ _).trans given)
  | none => exact .other rfl

/-- A usual entry stays an entry, with the other mapping's own entry laid over it. -/
theorem lookupText_merge_of_usual {usual inner : List (Value × Value)}
    (keys : ∀ entry ∈ usual, entry.1.isKey = true) (each : Value.AreKeyed inner) {name : String}
    {value : Value} (usually : lookupText name usual = some value) :
    ∃ result, lookupText name (merge usual inner) = some result ∧
      laid (some value) ((lookupText name inner).getD .null) = some result := by
  have merged := Value.lookup_merge keys each (show (Value.str name).isKey = true from rfl)
  rw [Value.lookup_str, Value.lookup_str, Value.lookup_str, usually] at merged
  have filled : (laid (some value) ((lookupText name inner).getD .null)).isSome = true := by
    rw [← Option.not_isNone, Value.laid_isNone]
    rfl
  obtain ⟨result, isLaid⟩ := Option.isSome_iff_exists.mp filled
  exact ⟨result, merged.trans isLaid, isLaid⟩

/-- The field usually stands in a record, and follows what is laid over it. -/
def RecordField.FollowsIn (usual : List (Value × Value)) (field : RecordField α) : Prop :=
  ∃ value, lookupText field.name usual = some value ∧ FollowsPatch field.read field.view value

/-- A record follows a patch as its fields do. -/
theorem followsPatch_record {read : Value → Checked α} {view : α → Value}
    {usual : List (String × Value)} (goes : GoesByFields fields read view)
    (each : fields.Forall (·.FollowsIn (entriesOf usual))) :
    FollowsPatch read view (.record usual) := by
  intro patch given before after isKeyed lays readsUsual reads way
  -- Null changes nothing, and a patch that takes the record's place cannot be read as a record.
  rcases Value.replaces_cases patch with rfl | ⟨inner, rfl⟩ | replaces
  · cases lays
    cases readsUsual.symm.trans reads
    exact follows_null way _
  · cases way with
    | nil =>
        constructor
        · intro silent
          cases silent _ rfl
        · intro _ _ _ mentioned sameKind
          cases mentioned
          cases sameKind.replaces.2
    | cons name rest =>
        cases lays
        have areKeyed := Value.isKeyed_map_iff.mp isKeyed
        have keys : ∀ entry ∈ entriesOf usual, entry.1.isKey = true :=
          List.forall_mem_map.mpr fun _ _ => rfl
        obtain ⟨_, isUsual, oldFields⟩ := goes.reads readsUsual
        obtain ⟨_, isMerged, newFields⟩ := goes.reads reads
        cases isUsual
        cases isMerged
        rw [List.forall_iff_forall_mem] at each oldFields newFields
        rw [goes.views, goes.views]
        refine follows_record fun field member isIt => .of_entry ?_
        subst isIt
        obtain ⟨value, usually, follows⟩ := each field member
        obtain ⟨result, merged, isLaid⟩ := lookupText_merge_of_usual keys areKeyed usually
        exact follows (isKeyed_lookupText areKeyed field.name) isLaid
          (fits_of_readField usually (oldFields field member))
          (fits_of_readField merged (newFields field member)) rest
  · rw [Value.laid_of_replaces replaces] at lays
    cases lays
    obtain ⟨entries, rfl, _⟩ := goes.reads reads
    cases replaces.2

end RecordsOfFields

/-! ## Kinds of fields -/

namespace RecordField

variable {α kind : Type}

/-- A truth value, off when it is absent. -/
def flag (name : String) (content : α → Bool) : RecordField α :=
  ⟨Bool, name, content, false, readBool, .bool⟩

/-- A list of texts, empty when it is absent. -/
def texts (name : String) (content : α → List String) : RecordField α :=
  ⟨List String, name, content, [], readTexts, .texts⟩

/-- Something that may be null and is when it is absent. -/
def optional (name : String) (content : α → Option kind) (read : Value → Checked kind)
    (view : kind → Value) : RecordField α :=
  ⟨Option kind, name, content, none, readOptional read, fun given => (given.map view).getD .null⟩

variable {usual : List (Value × Value)}

theorem followsIn_of_setting {field : RecordField α} (isSetting : IsSetting field.read field.view)
    (present : (lookupText field.name usual).isSome = true) : field.FollowsIn usual := by
  obtain ⟨value, usually⟩ := Option.isSome_iff_exists.mp present
  exact ⟨value, usually, isSetting.followsPatch⟩

variable {name : String}

theorem flag_followsIn {content : α → Bool} (present : (lookupText name usual).isSome = true) :
    (flag name content).FollowsIn usual :=
  followsIn_of_setting isSetting_bool present

theorem texts_followsIn {content : α → List String}
    (present : (lookupText name usual).isSome = true) : (texts name content).FollowsIn usual :=
  followsIn_of_setting isSetting_texts present

theorem optionalInt_followsIn {content : α → Option Int}
    (present : (lookupText name usual).isSome = true) :
    (optional name content readInt .int).FollowsIn usual :=
  followsIn_of_setting isSetting_int.optional present

variable {inner : List (RecordField kind)} {given : List (String × Value)}
  {read : Value → Checked kind} {view : kind → Value}

/-- A record inside a record. -/
theorem followsIn_record {content : α → kind} {absent : kind}
    (usually : lookupText name usual = some (.record given)) (goes : GoesByFields inner read view)
    (each : inner.Forall (·.FollowsIn (entriesOf given))) :
    (RecordField.mk kind name content absent read view).FollowsIn usual :=
  ⟨.record given, usually, followsPatch_record goes each⟩

/-- A record inside a record that may be null instead. -/
theorem followsIn_optional {content : α → Option kind} {optionalView : Option kind → Value}
    (viewSome : ∀ settings, optionalView (some settings) = view settings)
    (usually : lookupText name usual = some (.record given)) (goes : GoesByFields inner read view)
    (each : inner.Forall (·.FollowsIn (entriesOf given))) :
    (RecordField.mk (Option kind) name content none (readOptional read) optionalView).FollowsIn
      usual :=
  ⟨.record given, usually, (followsPatch_record goes each).optional rfl viewSome⟩

end RecordField

end WorkflowLint
