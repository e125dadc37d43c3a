import WorkflowLint.Proofs.JsonRoundTrip
import WorkflowLint.Proofs.Mentions
import WorkflowLint.Proofs.ValueEquality
import WorkflowLint.Rule.Retries

/-!
Contract: the texts of a value inside its JSON text.

Every value inside another is written inside what is written for the other, so every key and text leaf
stands there in quotes.  Quoting leaves stretches of plain characters whole.  Turning keys into texts
changes no value whose keys are distinct texts already.
-/

set_option autoImplicit false

namespace WorkflowLint

/-! ## Stretches of plain characters -/

namespace Json

private theorem flatMap_escapedChar_of_plain {text : List Char}
    (plain : ∀ c ∈ text, escapedChar c = [c]) :
    text.flatMap escapedChar = text := by
  induction text with
  | nil => rfl
  | cons c rest inductionHypothesis =>
      obtain ⟨here, after⟩ := List.forall_mem_cons.mp plain
      rw [List.flatMap_cons, here, inductionHypothesis after]
      rfl

theorem infix_quotedText {part text : List Char} (isPart : part <:+: text)
    (plain : ∀ c ∈ part, escapedChar c = [c]) : part <:+: quotedText text := by
  obtain ⟨before, after, rfl⟩ := isPart
  refine ⟨'"' :: before.flatMap escapedChar, after.flatMap escapedChar ++ ['"'], ?_⟩
  simp only [quotedText, List.flatMap_append, flatMap_escapedChar_of_plain plain, List.cons_append,
    List.append_assoc]

/-! ## Values inside values -/

theorem compact_str (text : String) : compact (.str text) = quotedText text.toList := by
  rw [compact, scalar] <;> simp

private theorem compact_infix_items {items : List Value} {item : Value} (listed : item ∈ items) :
    compact item <:+: compactItems items := by
  induction items with
  | nil => cases listed
  | cons first rest inductionHypothesis =>
      cases rest with
      | nil =>
          rw [List.mem_singleton.mp listed, compactItems]
      | cons second others =>
          rw [compactItems]
          · rcases List.mem_cons.mp listed with rfl | later
            · exact (List.prefix_append _ _).isInfix
            · exact (inductionHypothesis later).trans
                (List.suffix_append_of_suffix (List.suffix_append [',', ' '] _)).isInfix
          · simp

/-- An entry on one line. -/
def compactEntry (entry : Value × Value) : List Char :=
  key entry.1 ++ ':' :: ' ' :: compact entry.2

theorem compactEntry_infix_entries {entries : List (Value × Value)} {entry : Value × Value}
    (listed : entry ∈ entries) : compactEntry entry <:+: compactEntries entries := by
  induction entries with
  | nil => cases listed
  | cons first rest inductionHypothesis =>
      cases rest with
      | nil =>
          rw [List.mem_singleton.mp listed, compactEntries]
          exact List.infix_refl _
      | cons second others =>
          rw [compactEntries]
          · rcases List.mem_cons.mp listed with rfl | later
            · exact (List.prefix_append _ _).isInfix
            · exact (inductionHypothesis later).trans
                (List.suffix_append_of_suffix (List.suffix_append [',', ' '] _)).isInfix
          · simp

theorem infix_map {entries : List (Value × Value)} {part : List Char}
    (isPart : part <:+: compactEntries entries) : part <:+: compact (.map entries) := by
  rw [compact]
  exact isPart.trans ⟨['{'], ['}'], rfl⟩

private theorem key_infix_map {entries : List (Value × Value)} {name value : Value}
    (listed : (name, value) ∈ entries) : key name <:+: compact (.map entries) :=
  infix_map ((List.prefix_append _ _).isInfix.trans (compactEntry_infix_entries listed))

theorem compact_infix_map {entries : List (Value × Value)} {name value : Value}
    (listed : (name, value) ∈ entries) : compact value <:+: compact (.map entries) :=
  infix_map ((List.suffix_append_of_suffix (List.suffix_append [':', ' '] _)).isInfix.trans
    (compactEntry_infix_entries listed))

theorem compact_infix_of_inside {inner outer : Value} (inside : inner.Inside outer) :
    compact inner <:+: compact outer := by
  induction inside with
  | self => exact List.infix_refl _
  | item listed _ inductionHypothesis | part listed _ inductionHypothesis =>
      rw [compact]
      exact (inductionHypothesis.trans (compact_infix_items listed)).trans ⟨['['], [']'], rfl⟩
  | field listed _ inductionHypothesis => exact inductionHypothesis.trans (compact_infix_map listed)

end Json

namespace Value

private theorem IsSpelled.of_inside {inner outer : Value} (inside : inner.Inside outer)
    (isSpelled : outer.IsSpelled) : inner.IsSpelled := by
  induction inside with
  | self => exact isSpelled
  | item listed _ inductionHypothesis =>
      cases isSpelled with
      | list each => exact inductionHypothesis (each _ listed)
  | part => cases isSpelled
  | field listed _ inductionHypothesis => exact inductionHypothesis (isSpelled.of_mem listed)

/-- Every key and every text leaf is written in quotes. -/
theorem IsSpelled.isWritten {value : Value} (isSpelled : value.IsSpelled) {text : List Char}
    (isShown : value.Shows text) : Json.quotedText text <:+: Json.compact value := by
  cases isShown with
  | leaf inside =>
      rw [← Json.compact_str]
      exact Json.compact_infix_of_inside inside
  | key inside listed =>
      cases isSpelled.of_inside inside with
      | map keys _ _ =>
          obtain ⟨name, isName⟩ := keys _ listed
          cases isName
          exact (Json.key_infix_map listed).trans (Json.compact_infix_of_inside inside)

/-! ## Keys as texts -/

theorem ofPairs_entriesOf {fields : List (String × Value)} (distinct : (fields.map Prod.fst).Nodup) :
    ofPairs (entriesOf fields) = entriesOf fields := by
  -- Each entry comes behind those that are there already.
  have onto : ∀ before : List (String × Value), ((before ++ fields).map Prod.fst).Nodup →
      (entriesOf fields).foldl (fun entries entry => insert entry.1 entry.2 entries)
        (entriesOf before) = entriesOf (before ++ fields) := by
    clear distinct
    induction fields with
    | nil =>
        intro before _
        rw [List.append_nil]
        rfl
    | cons field rest inductionHypothesis =>
        intro before distinct
        have isNew : field.1 ∉ before.map Prod.fst := by
          rw [List.map_append, List.map_cons, List.nodup_append] at distinct
          intro member
          exact distinct.2.2 _ member _ List.mem_cons_self rfl
        have grown : before ++ field :: rest = (before ++ [field]) ++ rest := by simp
        show (entriesOf rest).foldl _ (insert (.str field.1) field.2 (entriesOf before)) = _
        rw [insert_of_new isNew, grown]
        rw [grown] at distinct
        exact inductionHypothesis (before ++ [field]) distinct
  exact onto [] distinct

private theorem entriesWithTextKeys_entriesOf (fields : List (String × Value)) :
    entriesWithTextKeys (entriesOf fields) =
      entriesOf (fields.map fun field => (field.1, field.2.withTextKeys)) := by
  induction fields with
  | nil => rfl
  | cons field rest inductionHypothesis =>
      show entriesWithTextKeys ((.str field.1, field.2) :: entriesOf rest) = _
      rw [entriesWithTextKeys, inductionHypothesis, displayText, display, String.ofList_toList]
      rfl

theorem withTextKeys_record {fields : List (String × Value)}
    (distinct : (fields.map Prod.fst).Nodup) :
    (record fields).withTextKeys =
      record (fields.map fun field => (field.1, field.2.withTextKeys)) := by
  rw [record_eq_map, record_eq_map, withTextKeys, entriesWithTextKeys_entriesOf, ofPairs_entriesOf]
  rw [List.map_map]
  exact distinct

theorem compact_infix_record {fields : List (String × Value)}
    (distinct : (fields.map Prod.fst).Nodup) {name : String} {value : Value}
    (listed : (name, value) ∈ fields) :
    Json.compact value.withTextKeys <:+: Json.compact (record fields).withTextKeys := by
  rw [withTextKeys_record distinct, record_eq_map, entriesOf, List.map_map]
  exact Json.compact_infix_map (List.mem_map_of_mem listed)

private theorem exists_fields {entries : List (Value × Value)}
    (keys : ∀ entry ∈ entries, ∃ name, entry.1 = .str name) : ∃ fields, entries = entriesOf fields := by
  induction entries with
  | nil => exact ⟨[], rfl⟩
  | cons entry rest inductionHypothesis =>
      obtain ⟨⟨name, isName⟩, others⟩ := List.forall_mem_cons.mp keys
      obtain ⟨fields, rfl⟩ := inductionHypothesis others
      obtain ⟨key, value⟩ := entry
      cases isName
      exact ⟨(name, value) :: fields, rfl⟩

theorem IsSpelled.withTextKeys_eq {value : Value} (isSpelled : value.IsSpelled) :
    value.withTextKeys = value := by
  induction isSpelled with
  | @list items _ inductionHypothesis =>
      rw [withTextKeys, Json.itemsWithTextKeys_eq_map, List.map_congr_left inductionHypothesis,
        List.map_id']
  | map keys distinct _ inductionHypothesis =>
      obtain ⟨fields, rfl⟩ := exists_fields keys
      have asKeys : ((fields.map Prod.fst).map Value.str).Nodup := by
        rw [entriesOf, List.map_map] at distinct
        rw [List.map_map]
        exact distinct
      have sameFields : (fields.map fun field => (field.1, field.2.withTextKeys)) = fields := by
        refine (List.map_congr_left fun field listed => ?_).trans (List.map_id fields)
        have kept := inductionHypothesis (.str field.1, field.2) (List.mem_map_of_mem listed)
        dsimp only at kept
        rw [kept]
        rfl
      rw [← record_eq_map, withTextKeys_record (asKeys.of_map Value.str), sameFields]
  | _ => rfl

end Value

end WorkflowLint
