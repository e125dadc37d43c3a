import WorkflowLint.Proofs.Faults
import WorkflowLint.Proofs.JsonValues
import WorkflowLint.Proofs.WorkflowGraph

/-!
Contract: the verdict on a JSON document.

The later stages of the structure check and the outline take parts of a document as mappings, keys
and texts without asking.  Main statement: `graph_of_json`, that on a JSON document none of them
meets anything else.  Such a document has a graph, or it is refused with issues.
-/

set_option autoImplicit false

namespace WorkflowLint

open Sequence (FailsOnly failsOnly_ok failsOnly_error)

/-! ## Paths of problems -/

/-- Every step of the path has a place in the order of problems. -/
def HasOrder (path : List Value) : Prop := ∀ step ∈ path, ∃ key, pathStep? step = some key

theorem HasOrder.append {path : List Value} (ordered : HasOrder path) {step : Value}
    {key : List Char} (hasKey : pathStep? step = some key) : HasOrder (path ++ [step]) := by
  intro other member
  rcases List.mem_append.mp member with before | last
  · exact ordered other before
  · rw [List.mem_singleton.mp last]
    exact ⟨key, hasKey⟩

theorem pathStep?_str (name : String) : ∃ key, pathStep? (.str name) = some key := by
  rw [pathStep?]
  split
  · exact ⟨_, rfl⟩
  · exact ⟨_, rfl⟩

namespace Schema

mutual

/-- The problems of a JSON value stand at texts and indices. -/
theorem problems_haveOrder :
    ∀ (schema : Schema) {path : List Value} {value : Value}, HasOrder path → value.IsJson →
      ∀ problem ∈ schema.problems path value, HasOrder problem.path
  | .types names listed, path, value, ordered, isJson, problem, member => by
      rw [problems] at member
      split at member
      · cases member
      · rw [List.mem_singleton.mp member]
        exact ordered
  | .required names, path, value, ordered, isJson, problem, member => by
      cases isJson with
      | map =>
          rw [problems] at member
          obtain ⟨name, _, rfl⟩ := List.mem_map.mp member
          exact ordered
      | _ => simp [problems] at member
  | .properties fields, path, value, ordered, isJson, problem, member => by
      cases isJson with
      | map keys values =>
          rw [problems] at member
          exact fieldProblems_haveOrder fields ordered ⟨keys, values⟩ problem member
      | _ => simp [problems] at member
  | .additional known each, path, value, ordered, isJson, problem, member => by
      cases isJson with
      | map keys values =>
          rw [problems, List.mem_flatMap] at member
          obtain ⟨⟨key, child⟩, among, found⟩ := member
          have listed := List.mem_of_mem_filter among
          obtain ⟨name, isText⟩ := keys _ listed
          obtain ⟨step, hasKey⟩ := pathStep?_str name
          rw [← isText] at hasKey
          exact problems_haveOrder each (ordered.append hasKey) (values _ listed) problem found
      | _ => simp [problems] at member
  | .minLength least, path, value, ordered, isJson, problem, member => by
      cases isJson with
      | str text =>
          rw [problems] at member
          split at member
          · rw [List.mem_singleton.mp member]
            exact ordered
          · cases member
      | _ => simp [problems] at member
  | .items each, path, value, ordered, isJson, problem, member => by
      cases isJson with
      | list eachItem =>
          rw [problems, List.mem_flatMap] at member
          obtain ⟨⟨item, index⟩, numbered, found⟩ := member
          have listed := List.fst_mem_of_mem_zipIdx numbered
          have hasKey : pathStep? (.int index) = some _ := rfl
          exact problems_haveOrder each (ordered.append hasKey) (eachItem item listed) problem found
      | _ => simp [problems] at member
  | .oneOf choices, path, value, ordered, isJson, problem, member => by
      rw [problems] at member
      split at member
      · cases member
      · rw [List.mem_singleton.mp member]
        exact ordered
  | .every parts, path, value, ordered, isJson, problem, member => by
      rw [problems] at member
      exact allProblems_haveOrder parts ordered isJson problem member
  | .never, path, value, ordered, isJson, problem, member => by
      rw [problems] at member
      rw [List.mem_singleton.mp member]
      exact ordered

theorem fieldProblems_haveOrder :
    ∀ (fields : List (String × Schema)) {path : List Value} {entries : List (Value × Value)},
      HasOrder path → Value.AreJsonEntries entries →
      ∀ problem ∈ fieldProblems fields path entries, HasOrder problem.path
  | [], path, entries, ordered, each, problem, member => by
      simp [fieldProblems] at member
  | (name, schema) :: rest, path, entries, ordered, each, problem, member => by
      rw [fieldProblems] at member
      rcases List.mem_append.mp member with own | later
      · cases found : Value.lookupText name entries with
        | none => simp [found] at own
        | some value =>
            rw [found] at own
            obtain ⟨step, hasKey⟩ := pathStep?_str name
            exact problems_haveOrder schema (ordered.append hasKey) (each.lookupText found) problem
              own
      · exact fieldProblems_haveOrder rest ordered each problem later

theorem allProblems_haveOrder :
    ∀ (parts : List Schema) {path : List Value} {value : Value}, HasOrder path → value.IsJson →
      ∀ problem ∈ allProblems parts path value, HasOrder problem.path
  | [], path, value, ordered, isJson, problem, member => by
      simp [allProblems] at member
  | part :: rest, path, value, ordered, isJson, problem, member => by
      rw [allProblems] at member
      rcases List.mem_append.mp member with own | later
      · exact problems_haveOrder part ordered isJson problem own
      · exact allProblems_haveOrder rest ordered isJson problem later

end

end Schema

private theorem exists_sortKey {problem : Problem} (ordered : HasOrder problem.path) :
    ∃ key, problem.sortKey? = some key := by
  have steps := Sequence.mapM_eq_some_filterMap ordered
  exact ⟨_, by rw [Problem.sortKey?, steps, Option.map_some]⟩

/-- Problems whose paths have an order can be sorted. -/
theorem exists_sortedProblems {problems : List Problem}
    (ordered : ∀ problem ∈ problems, HasOrder problem.path) :
    ∃ sorted, sortedProblems? problems = some sorted := by
  have keyed : ∀ problem ∈ problems,
      ∃ pair, (problem.sortKey?.map fun key => (key, problem)) = some pair := by
    intro problem member
    obtain ⟨key, hasKey⟩ := exists_sortKey (ordered problem member)
    exact ⟨(key, problem), by rw [hasKey, Option.map_some]⟩
  exact ⟨_, by rw [sortedProblems?, Sequence.mapM_eq_some_filterMap keyed]; rfl⟩

/-! ## The stages -/

namespace Document

/-- The document is refused, with issues. -/
def IsRefusal (rejection : Rejection) : Prop :=
  ∃ refusal, rejection = .refused refusal ∧ refusal.issues ≠ []

theorem refuse_failsOnly (issues : List Issue) : FailsOnly IsRefusal (refuse issues) := by
  cases issues with
  | nil => exact failsOnly_ok ()
  | cons first others => exact failsOnly_error ⟨_, rfl, by simp [Refusal.issues]⟩

private theorem checkSchema_failsOnly (schema : Schema) {document : Value}
    (isJson : document.IsJson) :
    FailsOnly IsRefusal (checkSchema schema document) := by
  have ordered : ∀ problem ∈ schema.problems [] document, HasOrder problem.path :=
    schema.problems_haveOrder (by simp [HasOrder]) isJson
  obtain ⟨sorted, isSorted⟩ := exists_sortedProblems ordered
  rw [checkSchema, isSorted]
  exact refuse_failsOnly _

private theorem checkIds_failsOnly (nodes : List Entries) : FailsOnly IsRefusal (checkIds nodes) :=
  refuse_failsOnly _

private theorem checkReferences_failsOnly {nodes : List Entries}
    (eachNode : ∀ node ∈ nodes, IsNode node)
    (connections : Entries) :
    FailsOnly IsRefusal (checkReferences nodes (.map connections)) := by
  obtain ⟨known, labels, _⟩ := labelsOf_eq_ok eachNode
  rw [checkReferences]
  split
  · exact failsOnly_ok ()
  · rw [labels]
    exact refuse_failsOnly _

/-- The structure check refuses a JSON document or accepts it. -/
theorem check_failsOnly {document : Value} (isJson : document.IsJson) :
    FailsOnly IsRefusal (check Schema.workflow document) := by
  unfold check
  refine (checkSchema_failsOnly Schema.workflow isJson).bind fun _ schemaMet => ?_
  -- From here on the document has the shape of a workflow.
  obtain ⟨entries, rfl, nodes, connections, shape⟩ :=
    (Schema.meets_workflow document).mp (checkSchema_eq_ok_iff.mp schemaMet)
  refine (failsOnly_ok entries).bind fun _ isEntries => ?_
  cases isEntries
  rw [nodesOf_eq_ok shape, Value.field_eq_of_found shape.connectionsField]
  refine (failsOnly_ok nodes).bind fun _ areNodes => ?_
  cases areNodes
  refine (checkIds_failsOnly nodes).bind fun _ _ => ?_
  exact (checkReferences_failsOnly shape.eachNode connections).bind fun _ _ => failsOnly_ok _

/-! ## Documents -/

theorem decode_of_json {text : List Char} {document : Value}
    (decoded : Json.decode text = .ok document) : decode text = .ok document := by
  rw [decode, decoded]

/-- A JSON text has a graph when reading its characters step by step gives one. -/
theorem graph_ofList_json {α : Type} {chars : List Char} {view : Graph → α} {seen : α}
    (evaluated : ((Json.decode chars).toOption.bind fun document =>
      (check Schema.workflow document >>= outline chars).toOption.bind fun result =>
        result.toGraph?.map view) = some seen) :
    ∃ document built, Json.decode (String.ofList chars).toList = .ok document ∧
      graph (String.ofList chars) = .ok built ∧ view built = seen := by
  obtain ⟨document, isSome, afterDecoding⟩ := Option.bind_eq_some_iff.mp evaluated
  have decoded := Sequence.toOption_eq_some_iff.mp isSome
  have isDocument : (decode chars).toOption = some document :=
    Sequence.toOption_eq_some_iff.mpr (decode_of_json decoded)
  obtain ⟨_, _, built, _, _, succeeds, isSeen⟩ :=
    graph_ofList (Option.bind_eq_some_iff.mpr ⟨document, isDocument, afterDecoding⟩)
  have decodedText : Json.decode (String.ofList chars).toList = .ok document := by
    rw [String.toList_ofList]
    exact decoded
  exact ⟨document, built, decodedText, succeeds, isSeen⟩

theorem graph_eq_error {text : String} {document : Value} {rejection : Rejection}
    (decoded : decode text.toList = .ok document)
    (rejected : check Schema.workflow document = .error rejection) :
    graph text = .error (.rejected rejection) := by
  have unread : read Schema.workflow text = .error (.rejected rejection) := by
    rw [read, decoded]
    simp only [rejected]
    rfl
  rw [graph, unread]

theorem check_of_workflow {entries : Entries} {nodes : List Entries} {connections : Entries}
    (workflow : IsWorkflow entries nodes connections) :
    check Schema.workflow (.map entries) = .ok ⟨entries, nodes⟩ :=
  check_eq_ok_iff.mpr ⟨rfl, connections, workflow⟩

/-- A JSON document is a workflow and has the graph of its nodes, or it is none and is refused with
issues. -/
theorem graph_of_json {text : String} {document : Value}
    (decoded : Json.decode text.toList = .ok document) :
    (∃ entries nodes connections built,
      document = .map entries ∧ IsWorkflow entries nodes connections ∧
      graph text = .ok built ∧ built.nodes = nodes.map describedNode) ∨
    (¬ ∃ entries nodes connections,
      document = .map entries ∧ IsWorkflow entries nodes connections) ∧
      ∃ refusal, graph text = .error (.rejected (.refused refusal)) ∧ refusal.issues ≠ [] := by
  have isDocument := decode_of_json decoded
  rcases (check_failsOnly (Json.isJson_of_decode decoded)).cases with
    ⟨accepted, passed⟩ | ⟨_, rejected, refusal, rfl, someIssues⟩
  · left
    obtain ⟨rfl, connections, workflow⟩ := check_eq_ok_iff.mp passed
    obtain ⟨edges, succeeds, _⟩ := graph_of_workflow workflow isDocument
    exact ⟨accepted.document, accepted.nodes, connections, _, rfl, workflow, succeeds, rfl⟩
  · right
    refine ⟨?_, refusal, graph_eq_error isDocument rejected, someIssues⟩
    rintro ⟨entries, nodes, connections, rfl, workflow⟩
    rw [check_of_workflow workflow] at rejected
    cases rejected

/-- One node with a link that refers to a list. -/
def listReference : List Char :=
  Json.compact (workflowDocument [[("name", "A"), ("type", "set")]]
    [("A", .record [("main", .list [.list [.record [("node", .list [.str "A"])]]])])])

/-- What cannot be a key is no reference: the document is refused. -/
theorem graph_of_json_listReference :
    ∃ document refusal, Json.decode (String.ofList listReference).toList = .ok document ∧
      graph (String.ofList listReference) = .error (.rejected (.refused refusal)) ∧
      refusal.issues ≠ [] := by
  have evaluated : ((Json.decode listReference).toOption.map fun document =>
      (check Schema.workflow document).toOption.isNone) = some true := by decide +kernel
  obtain ⟨document, isSome, notAccepted⟩ := Option.map_eq_some_iff.mp evaluated
  have decoded : Json.decode (String.ofList listReference).toList = .ok document := by
    rw [String.toList_ofList]
    exact Sequence.toOption_eq_some_iff.mp isSome
  rcases graph_of_json decoded with
    ⟨entries, nodes, connections, _, rfl, workflow, _⟩ | ⟨_, refusal, refused, someIssues⟩
  · rw [check_of_workflow workflow] at notAccepted
    cases notAccepted
  · exact ⟨document, refusal, decoded, refused, someIssues⟩

end Document

end WorkflowLint
