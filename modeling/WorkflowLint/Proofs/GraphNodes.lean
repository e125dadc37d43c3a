import WorkflowLint.Document.Outline
import WorkflowLint.Proofs.Acceptance

/-!
Contract: the nodes of the graph of a workflow.

Owns: the node that a mapping describes, its place in an outline, and the source lines of nodes.  A
workflow declares for each node a type and a name, so no node falls back to its position for an id.
-/

set_option autoImplicit false

namespace WorkflowLint.Document

/-! ## The node that a mapping describes -/

/-- The text of a field. -/
def textField? (name : String) (fields : Entries) : Option String :=
  (Value.lookupText name fields).bind Value.text?

/-- The node that a mapping describes.  Its id is the one that is declared, or else its name. -/
def describedNode (fields : Entries) : Node where
  id := (textField? "id" fields).getD ((textField? "name" fields).getD "")
  type := (textField? "type" fields).getD ""
  name := textField? "name" fields
  params := (Value.field "parameters" fields).entries?
  credentials := (Value.field "credentials" fields).entries?
  flags := flagsOf fields

theorem textField?_eq_some {name text : String} {fields : Entries}
    (found : Value.lookupText name fields = some (.str text)) :
    textField? name fields = some text := by
  rw [textField?, found]
  rfl

theorem describedNode_name {fields : Entries} {name : String} (named : HasName fields name) :
    (describedNode fields).name = some name :=
  textField?_eq_some named

theorem describedNode_id_of_declared {fields : Entries} {id : String}
    (declared : DeclaresId fields id) : (describedNode fields).id = id := by
  simp [describedNode, textField?_eq_some declared]

theorem describedNode_id_of_absent {fields : Entries} {name : String}
    (absent : Value.lookupText "id" fields = none) (named : HasName fields name) :
    (describedNode fields).id = name := by
  have noId : textField? "id" fields = none := by
    rw [textField?, absent]
    rfl
  simp [describedNode, noId, textField?_eq_some named]

/-- The name of a described node is not empty. -/
theorem describedNode_name_filled {fields : Entries} (isNode : IsNode fields) :
    (describedNode fields).name ≠ some "" := by
  obtain ⟨name, named, filled⟩ := isNode.hasName
  rw [describedNode_name named]
  simpa using filled

/-! ## Nodes in an outline -/

/-- A node of a graph as an outline has it. -/
def OutlineNode.ofNode (node : Node) : OutlineNode where
  id := .str node.id
  type := .str node.type
  name := (node.name.map Value.str).getD .null
  params := node.params
  credentials := node.credentials
  flags := node.flags

theorem OutlineNode.toNode?_ofNode (node : Node) : (ofNode node).toNode? = some node := by
  obtain ⟨id, type, name, params, credentials, flags⟩ := node
  cases name <;> rfl

/-- The first label of a node that is not empty is its id, declared or taken from its name. -/
theorem firstFilled_labels {fields : Entries} (isNode : IsNode fields) (otherwise : Value) :
    firstFilled [Value.field "id" fields, Value.field "name" fields] otherwise =
      .str (describedNode fields).id := by
  obtain ⟨name, named, nameFilled⟩ := isNode.hasName
  have nameField := Value.field_eq_of_found named
  rcases isNode.id_cases with absent | ⟨id, declared, idFilled⟩
  · have idField := Value.field_eq_of_absent absent
    rw [describedNode_id_of_absent absent named, idField, nameField]
    simp [firstFilled, Value.isEmpty_str nameFilled, show Value.null.isEmpty = true from rfl]
  · have idField := Value.field_eq_of_found declared
    rw [describedNode_id_of_declared declared, idField]
    simp [firstFilled, Value.isEmpty_str idFilled]

/-- The outline of a node is that of the node it describes. -/
theorem outlineNode_eq_ok {fields : Entries} (isNode : IsNode fields) (index : Nat) :
    outlineNode fields index = .ok (.ofNode (describedNode fields)) := by
  obtain ⟨name, named, _⟩ := isNode.hasName
  obtain ⟨type, typed, _⟩ := isNode.hasType
  have typeText : (describedNode fields).type = type := by
    simp [describedNode, textField?_eq_some typed]
  have nameValue : ((describedNode fields).name.map Value.str).getD .null = .str name := by
    simp [describedNode_name named]
  unfold outlineNode
  rw [typed, firstFilled_labels isNode, Value.field_eq_of_found named, OutlineNode.ofNode,
    typeText, nameValue]
  rfl

theorem outlineNodes_eq_ok {nodes : List Entries} (eachNode : ∀ node ∈ nodes, IsNode node) :
    (nodes.zipIdx.mapM fun (node, index) => outlineNode node index) =
      .ok ((nodes.map describedNode).map .ofNode) := by
  have each : ∀ entry ∈ nodes.zipIdx,
      outlineNode entry.1 entry.2 = .ok (.ofNode (describedNode entry.1)) := by
    intro entry member
    have listed : entry.1 ∈ nodes := List.fst_mem_of_mem_zipIdx member
    exact outlineNode_eq_ok (eachNode entry.1 listed) entry.2
  calc
    (nodes.zipIdx.mapM fun (node, index) => outlineNode node index)
      = .ok (nodes.zipIdx.map fun entry => .ofNode (describedNode entry.1)) :=
        Sequence.mapM_eq_ok_map each
    _ = .ok (((nodes.zipIdx.map Prod.fst).map describedNode).map .ofNode) := by
        rw [List.map_map, List.map_map]
        rfl
    _ = .ok ((nodes.map describedNode).map .ofNode) := by
        rw [List.zipIdx_map_fst]

/-- The labels of a node are its id and its name, unless that is empty. -/
theorem mem_labels_ofNode {node : Node} {label : Value} :
    label ∈ (OutlineNode.ofNode node).labels ↔
      label = .str node.id ∨ ∃ name, node.name = some name ∧ name ≠ "" ∧ label = .str name := by
  rw [OutlineNode.labels, List.mem_cons]
  refine or_congr_right ?_
  obtain ⟨id, type, name, params, credentials, flags⟩ := node
  cases name with
  | none => simp [OutlineNode.ofNode, Value.isEmpty]
  | some text =>
      by_cases filled : text = ""
      · simp [OutlineNode.ofNode, Value.isEmpty, filled]
      · simp [OutlineNode.ofNode, Value.isEmpty, filled]

/-- Texts can be keys, so all labels of described nodes can. -/
theorem checkLabels_eq_ok (nodes : List Node) : checkLabels (nodes.map .ofNode) = .ok () := by
  have keys : ((nodes.map OutlineNode.ofNode).flatMap OutlineNode.labels).all Value.isKey = true := by
    simp only [List.all_eq_true, List.mem_flatMap, List.mem_map]
    rintro label ⟨_, ⟨node, _, rfl⟩, isLabel⟩
    rcases mem_labels_ofNode.mp isLabel with rfl | ⟨name, _, _, rfl⟩ <;> rfl
  rw [checkLabels, if_pos keys]

/-! ## Source lines -/

theorem mem_enterLine {id : Value} {line : Nat} {lines : List (Value × Int)} {entry : Value × Int}
    (member : entry ∈ enterLine id line lines) :
    entry.1 = id ∨ ∃ other ∈ lines, entry.1 = other.1 := by
  induction lines with
  | nil =>
      rw [enterLine, List.mem_singleton] at member
      exact .inl (member ▸ rfl)
  | cons first rest inductionHypothesis =>
      obtain ⟨other, old⟩ := first
      rw [enterLine] at member
      split at member
      · rcases List.mem_cons.mp member with rfl | later
        · exact .inr ⟨(other, old), by simp, rfl⟩
        · exact .inr ⟨entry, List.mem_cons_of_mem _ later, rfl⟩
      · rcases List.mem_cons.mp member with rfl | later
        · exact .inr ⟨(other, old), by simp, rfl⟩
        · rcases inductionHypothesis later with isId | ⟨found, listed, equal⟩
          · exact .inl isId
          · exact .inr ⟨found, List.mem_cons_of_mem _ listed, equal⟩

/-- Source lines are entered under the ids of nodes. -/
theorem mem_linesOf {text : List Char} {nodes : List (Value × Value)} :
    ∀ entry ∈ linesOf text nodes, ∃ node ∈ nodes, entry.1 = node.1 := by
  unfold linesOf
  -- What one node enters is under its own id or under that of a node before.
  refine List.foldlRecOn
    (motive := fun found : List (Value × Int) => ∀ entry ∈ found, ∃ node ∈ nodes, entry.1 = node.1)
    nodes _ ?_ ?_
  · intro entry member
    cases member
  · intro found entered node listed entry member
    unfold enterNode at member
    split at member
    · rcases mem_enterLine member with isId | ⟨other, before, same⟩
      · exact ⟨node, listed, isId⟩
      · rw [same]
        exact entered other before
    · exact entered entry member

/-- The lines of an outline whose nodes are those of a graph are the lines of the graph. -/
theorem graphLines_eq_some (text : List Char) (nodes : List Node) :
    ((linesOf text ((nodes.map OutlineNode.ofNode).map fun node => (node.id, node.name))).mapM
        fun (id, line) => id.text?.map fun text => (text, line)) =
      some (graphLines text nodes) := by
  have labels : (nodes.map OutlineNode.ofNode).map (fun node => (node.id, node.name)) =
      nodes.map fun node => (Value.str node.id, (node.name.map Value.str).getD .null) := by
    rw [List.map_map]
    rfl
  rw [labels, graphLines]
  apply Sequence.mapM_eq_some_filterMap
  intro entry member
  obtain ⟨id, line⟩ := entry
  obtain ⟨_, listed, equal⟩ := mem_linesOf _ member
  obtain ⟨node, _, rfl⟩ := List.mem_map.mp listed
  cases equal
  exact ⟨(node.id, line), rfl⟩

end WorkflowLint.Document
