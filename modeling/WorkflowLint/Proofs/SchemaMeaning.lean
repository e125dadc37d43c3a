import WorkflowLint.Document.Structure
import WorkflowLint.Proofs.Sequence

/-!
Contract: what schemas demand, without paths and messages.

`Schema.Meets` says what each demand means for a value.  The checker finds no problem exactly in the
values that meet the schema, wherever they stand, so the first stage of the structure check passes
exactly those.
-/

set_option autoImplicit false

namespace WorkflowLint

namespace Schema

mutual

/-- The value does what the schema demands. -/
def Meets : Schema → Value → Prop
  | .types names _, value => ∃ name ∈ names, name.holds value = true
  | .required names, value =>
      ∀ entries, value = .map entries →
        ∀ name ∈ names, ∃ child, Value.lookupText name entries = some child
  | .properties fields, value => ∀ entries, value = .map entries → FieldsMeet fields entries
  | .additional known each, value =>
      ∀ entries, value = .map entries → ∀ entry ∈ others known entries, Meets each entry.2
  | .minLength least, value => ∀ text, value = .str text → least ≤ text.length
  | .items each, value => ∀ members, value = .list members → ∀ item ∈ members, Meets each item
  | .oneOf choices, value => MeetsOne choices value
  | .every parts, value => MeetsAll parts value
  | .never, _ => False

/-- The fields, where present, meet their schemas. -/
def FieldsMeet : List (String × Schema) → List (Value × Value) → Prop
  | [], _ => True
  | (name, schema) :: rest, entries =>
      (∀ value, Value.lookupText name entries = some value → Meets schema value) ∧
        FieldsMeet rest entries

/-- The value meets one of the schemas. -/
def MeetsOne : List Schema → Value → Prop
  | [], _ => False
  | choice :: rest, value => Meets choice value ∨ MeetsOne rest value

/-- The value meets all schemas. -/
def MeetsAll : List Schema → Value → Prop
  | [], _ => True
  | part :: rest, value => Meets part value ∧ MeetsAll rest value

end

/-! ## The checker -/

mutual

/-- The checker finds nothing exactly when the value meets the schema. -/
theorem problems_eq_nil_iff :
    ∀ (schema : Schema) (path : List Value) (value : Value),
      schema.problems path value = [] ↔ schema.Meets value
  | .types names listed, path, value => by
      rw [problems, Meets]
      by_cases typed : names.any (·.holds value) = true
      · rw [if_pos typed]
        simpa using List.any_eq_true.mp typed
      · rw [if_neg typed]
        simpa using typed
  | .required names, path, value => by
      cases value with
      | map entries =>
          simp [problems, Meets, Option.ne_none_iff_exists']
      | _ => simp [problems, Meets]
  | .properties fields, path, value => by
      cases value with
      | map entries =>
          simpa [problems, Meets] using fieldProblems_eq_nil_iff fields path entries
      | _ => simp [problems, Meets]
  | .additional known each, path, value => by
      cases value with
      | map entries =>
          have eachEntry : ∀ key child : Value,
              problems each (path ++ [key]) child = [] ↔ Meets each child :=
            fun key child => problems_eq_nil_iff each (path ++ [key]) child
          simp [problems, Meets, List.flatMap_eq_nil_iff, eachEntry]
      | _ => simp [problems, Meets]
  | .minLength least, path, value => by
      cases value with
      | str text => simp [problems, Meets]
      | _ => simp [problems, Meets]
  | .items each, path, value => by
      cases value with
      | list members =>
          have eachItem : ∀ (item : Value) (index : Nat),
              problems each (path ++ [.int index]) item = [] ↔ Meets each item :=
            fun item index => problems_eq_nil_iff each (path ++ [.int index]) item
          simp only [problems, Meets, List.flatMap_eq_nil_iff, Prod.forall, eachItem,
            Value.list.injEq, forall_eq']
          constructor
          · intro numbered item member
            obtain ⟨index, atIndex⟩ := List.mem_iff_getElem?.mp member
            exact numbered item index (List.mk_mem_zipIdx_iff_getElem?.mpr atIndex)
          · intro all item index member
            exact all item (List.mem_of_getElem? (List.mk_mem_zipIdx_iff_getElem?.mp member))
      | _ => simp [problems, Meets]
  | .oneOf choices, path, value => by
      rw [problems, Meets, ← meetsAny_iff choices path value]
      split <;> simp_all
  | .every parts, path, value => by
      rw [problems, Meets]
      exact allProblems_eq_nil_iff parts path value
  | .never, path, value => by
      simp [problems, Meets]

theorem fieldProblems_eq_nil_iff :
    ∀ (fields : List (String × Schema)) (path : List Value) (entries : List (Value × Value)),
      fieldProblems fields path entries = [] ↔ FieldsMeet fields entries
  | [], path, entries => by
      simp [fieldProblems, FieldsMeet]
  | (name, schema) :: rest, path, entries => by
      rw [fieldProblems, FieldsMeet, List.append_eq_nil_iff,
        fieldProblems_eq_nil_iff rest path entries]
      cases Value.lookupText name entries with
      | none => simp
      | some value => simp [problems_eq_nil_iff schema (path ++ [.str name]) value]

theorem meetsAny_iff :
    ∀ (choices : List Schema) (path : List Value) (value : Value),
      meetsAny choices path value = true ↔ MeetsOne choices value
  | [], path, value => by
      simp [meetsAny, MeetsOne]
  | choice :: rest, path, value => by
      rw [meetsAny, MeetsOne, Bool.or_eq_true, List.isEmpty_iff,
        problems_eq_nil_iff choice path value, meetsAny_iff rest path value]

theorem allProblems_eq_nil_iff :
    ∀ (parts : List Schema) (path : List Value) (value : Value),
      allProblems parts path value = [] ↔ MeetsAll parts value
  | [], path, value => by
      simp [allProblems, MeetsAll]
  | part :: rest, path, value => by
      rw [allProblems, MeetsAll, List.append_eq_nil_iff, problems_eq_nil_iff part path value,
        allProblems_eq_nil_iff rest path value]

end

end Schema

/-! ## The first stage -/

/-- Ordering problems loses none: there are problems after it exactly when there were before. -/
theorem sortedProblems?_eq_nil_iff {problems sorted : List Problem}
    (ordered : sortedProblems? problems = some sorted) : sorted = [] ↔ problems = [] := by
  unfold sortedProblems? at ordered
  obtain ⟨keyed, keys, equal⟩ := Option.bind_eq_some_iff.mp ordered
  have sameLength : keyed.length = problems.length :=
    (List.Forall₂.length_eq (Sequence.mapM_eq_some_iff.mp keys)).symm
  cases equal
  rw [← List.length_eq_zero_iff, ← List.length_eq_zero_iff, List.length_map, List.length_mergeSort,
    sameLength]

namespace Document

theorem refuse_eq_ok_iff {issues : List Issue} : refuse issues = .ok () ↔ issues = [] := by
  cases issues <;> simp [refuse, Refusal.ofIssues?]

/-- The first stage passes exactly the documents that meet the schema. -/
theorem checkSchema_eq_ok_iff {schema : Schema} {document : Value} :
    checkSchema schema document = .ok () ↔ schema.Meets document := by
  rw [← schema.problems_eq_nil_iff [] document, checkSchema]
  cases ordered : sortedProblems? (schema.problems [] document) with
  | none =>
      have found : schema.problems [] document ≠ [] := by
        intro none
        rw [none] at ordered
        cases ordered
      simpa using found
  | some sorted =>
      rw [← sortedProblems?_eq_nil_iff ordered]
      simp [refuse_eq_ok_iff]

end Document

end WorkflowLint
