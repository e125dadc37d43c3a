import WorkflowLint.Proofs.LinkPlaces
import WorkflowLint.Proofs.WorkflowShape

/-!
Contract: which documents are accepted as workflows.

Owns: what the second and third stage of the structure check look at, namely ids that several nodes
declare and references to nodes, and from all three stages the exact set of accepted documents.
-/

set_option autoImplicit false

namespace WorkflowLint

/-! ## Equality with texts -/

namespace Value

theorem same_str_iff {text : String} {other : Value} :
    (Value.str text).same other = true ↔ other = .str text := by
  cases other with
  | str otherText =>
      simp only [same, sameScalar, beq_iff_eq, str.injEq]
      exact eq_comm
  | _ => simp [same, sameScalar, wholeNumber?]

theorem isEmpty_str {text : String} (filled : text ≠ "") : (Value.str text).isEmpty = false := by
  simpa [isEmpty] using filled

theorem field_eq_of_found {name : String} {entries : List (Value × Value)} {value : Value}
    (found : lookupText name entries = some value) : field name entries = value := by
  rw [field, found, Option.getD_some]

theorem field_eq_of_absent {name : String} {entries : List (Value × Value)}
    (absent : lookupText name entries = none) : field name entries = .null := by
  rw [field, absent, Option.getD_none]

/-- A field that holds a text is filled exactly with that text. -/
theorem filledField_iff {name text : String} {entries : List (Value × Value)}
    (found : lookupText name entries = some (.str text)) (filled : text ≠ "") (value : Value) :
    field name entries = value ∧ value.isEmpty = false ↔
      ∃ other, value = .str other ∧ lookupText name entries = some (.str other) := by
  rw [field_eq_of_found found]
  constructor
  · intro isFilled
    obtain ⟨rfl, _⟩ := isFilled
    exact ⟨text, rfl, found⟩
  · intro holds
    obtain ⟨other, rfl, otherFound⟩ := holds
    cases found.symm.trans otherFound
    exact ⟨rfl, isEmpty_str filled⟩

end Value

namespace Document

open Value (LinkAt reference)

theorem isAmong_str_iff {text : String} {values : List Value} :
    isAmong (.str text) values = true ↔ .str text ∈ values := by
  simp [isAmong, Value.same_str_iff]

/-! ## Labels of nodes -/

/-- The node declares the text as its id. -/
def DeclaresId (node : Entries) (text : String) : Prop :=
  Value.lookupText "id" node = some (.str text)

/-- The node has the text as its name. -/
def HasName (node : Entries) (text : String) : Prop :=
  Value.lookupText "name" node = some (.str text)

/-- The reference is a text that is the id or the name of one of the nodes. -/
def IsLabelOf (nodes : List Entries) (reference : Value) : Prop :=
  ∃ text, reference = .str text ∧ ∃ node ∈ nodes, DeclaresId node text ∨ HasName node text

/-- A document that is a workflow, with its nodes and connections: it has the shape of one, no id is
declared by two nodes, and every source and every link that refers to something refers to a node. -/
structure IsWorkflow (document : Entries) (nodes : List Entries) (connections : Entries) : Prop
    extends HasShape document nodes connections where
  distinctIds : nodes.Pairwise fun left right => ∀ id, ¬ (DeclaresId left id ∧ DeclaresId right id)
  knownSources : ∀ entry ∈ connections, IsLabelOf nodes entry.1
  knownTargets : ∀ entry ∈ connections, ∀ channels, entry.2 = .map channels →
    ∀ channel ∈ channels, ∀ way link, LinkAt channel.2 way link →
      (reference link).isEmpty = false → IsLabelOf nodes (reference link)

namespace IsNode

variable {node : Entries}

/-- A node has a name, which is not empty. -/
theorem hasName (isNode : IsNode node) : ∃ name, HasName node name ∧ name ≠ "" := by
  obtain ⟨_, found, name, rfl, filled⟩ := isNode.name
  exact ⟨name, found, filled⟩

/-- A node has a type, which is not empty. -/
theorem hasType (isNode : IsNode node) :
    ∃ type, Value.lookupText "type" node = some (.str type) ∧ type ≠ "" := by
  obtain ⟨_, found, type, rfl, filled⟩ := isNode.type
  exact ⟨type, found, filled⟩

/-- A node declares no id, or one that is not empty. -/
theorem id_cases (isNode : IsNode node) :
    Value.lookupText "id" node = none ∨ ∃ id, DeclaresId node id ∧ id ≠ "" := by
  cases found : Value.lookupText "id" node with
  | none => exact .inl rfl
  | some value =>
      obtain ⟨id, rfl, filled⟩ := isNode.id value found
      exact .inr ⟨id, found, filled⟩

/-- The id field of a node is filled exactly with the id that the node declares. -/
theorem filledId_iff (isNode : IsNode node) (value : Value) :
    Value.field "id" node = value ∧ value.isEmpty = false ↔
      ∃ id, value = .str id ∧ DeclaresId node id := by
  rcases isNode.id_cases with absent | ⟨id, declared, filled⟩
  · rw [Value.field_eq_of_absent absent]
    constructor
    · intro filled
      obtain ⟨rfl, impossible⟩ := filled
      simp [Value.isEmpty] at impossible
    · intro declares
      obtain ⟨id, _, declared⟩ := declares
      rw [DeclaresId, absent] at declared
      cases declared
  · exact Value.filledField_iff declared filled value

/-- The name field of a node is filled with its name. -/
theorem filledName_iff (isNode : IsNode node) (value : Value) :
    Value.field "name" node = value ∧ value.isEmpty = false ↔
      ∃ name, value = .str name ∧ HasName node name := by
  obtain ⟨name, named, filled⟩ := isNode.hasName
  exact Value.filledField_iff named filled value

end IsNode

/-! ## Nodes of a document -/

theorem nodeOf_eq_ok {node : Entries} (isNode : IsNode node) : nodeOf (.map node) = .ok node := by
  rcases isNode.id_cases with absent | ⟨id, declared, _⟩
  · simp [nodeOf, entriesOf, Value.field_eq_of_absent absent, Value.isEmpty, bind, Except.bind,
      pure, Except.pure]
  · simp [nodeOf, entriesOf, Value.field_eq_of_found declared, Value.isKey, bind, Except.bind, pure,
      Except.pure]

theorem nodesOf_eq_ok {document : Entries} {nodes : List Entries} {connections : Entries}
    (shape : HasShape document nodes connections) : nodesOf document = .ok nodes := by
  have stepped : (nodes.map Value.map).mapM nodeOf = .ok nodes := by
    rw [List.mapM_map, Sequence.mapM_eq_ok_iff]
    exact List.forall₂_same.mpr fun node member => nodeOf_eq_ok (shape.eachNode node member)
  unfold nodesOf
  rw [Value.field_eq_of_found shape.nodesField]
  cases nodes with
  | nil => rfl
  | cons first rest => exact stepped

/-! ## Ids that several nodes declare -/

/-- Ids found so far stay found. -/
theorem repeatedIds_ne_nil {found : List Value} (someFound : found ≠ []) (seen ids : List Value) :
    repeatedIds seen found ids ≠ [] := by
  induction ids generalizing seen found with
  | nil => exact someFound
  | cons id rest inductionHypothesis =>
      rw [repeatedIds]
      apply inductionHypothesis
      split
      · simp
      · exact someFound

/-- No id is found exactly when none equals an id before it. -/
theorem repeatedIds_eq_nil_iff {seen ids : List Value} :
    repeatedIds seen [] ids = [] ↔
      (∀ id ∈ ids, isAmong id seen = false) ∧
        ids.Pairwise fun earlier later => later.same earlier = false := by
  induction ids generalizing seen with
  | nil => simp [repeatedIds]
  | cons id rest inductionHypothesis =>
      rw [repeatedIds, List.forall_mem_cons, List.pairwise_cons]
      cases met : isAmong id seen with
      | true =>
          have found : repeatedIds (seen ++ [id]) [id] rest ≠ [] :=
            repeatedIds_ne_nil (by simp) (seen ++ [id]) rest
          simpa [isAmong] using found
      | false =>
          have split : ∀ later, isAmong later (seen ++ [id]) = false ↔
              isAmong later seen = false ∧ later.same id = false := by
            simp [isAmong]
          simp only [Bool.false_and, Bool.false_eq_true, ↓reduceIte, inductionHypothesis, split]
          constructor
          · intro allFresh
            obtain ⟨fresh, distinct⟩ := allFresh
            exact ⟨⟨trivial, fun later member => (fresh later member).1⟩,
              fun later member => (fresh later member).2, distinct⟩
          · intro allDistinct
            obtain ⟨⟨_, fresh⟩, differs, distinct⟩ := allDistinct
            exact ⟨fun later member => ⟨fresh later member, differs later member⟩, distinct⟩

/-- The second stage passes exactly when no id is declared by two nodes. -/
theorem checkIds_eq_ok_iff {nodes : List Entries} (eachNode : ∀ node ∈ nodes, IsNode node) :
    checkIds nodes = .ok () ↔
      nodes.Pairwise fun left right => ∀ id, ¬ (DeclaresId left id ∧ DeclaresId right id) := by
  rw [checkIds, refuse_eq_ok_iff, List.map_eq_nil_iff, repeatedIds_eq_nil_iff]
  simp only [isAmong, List.any_nil, implies_true, true_and, List.pairwise_filter, List.pairwise_map]
  rw [List.pairwise_iff_forall_sublist, List.pairwise_iff_forall_sublist]
  refine forall₂_congr fun left right => forall_congr' fun sublist => ?_
  have leftNode := eachNode left (sublist.mem (by simp))
  have rightNode := eachNode right (sublist.mem (by simp))
  simp only [Bool.not_eq_eq_eq_not, Bool.not_true]
  constructor
  · intro differs id bothDeclare
    obtain ⟨leftDeclares, rightDeclares⟩ := bothDeclare
    obtain ⟨leftField, leftFilled⟩ := (leftNode.filledId_iff _).mpr ⟨id, rfl, leftDeclares⟩
    obtain ⟨rightField, rightFilled⟩ := (rightNode.filledId_iff _).mpr ⟨id, rfl, rightDeclares⟩
    rw [leftField, rightField] at differs
    have same : (Value.str id).same (.str id) = true := Value.same_str_iff.mpr rfl
    rw [differs leftFilled rightFilled] at same
    cases same
  · intro distinct leftFilled rightFilled
    obtain ⟨leftId, leftField, leftDeclares⟩ := (leftNode.filledId_iff _).mp ⟨rfl, leftFilled⟩
    obtain ⟨rightId, rightField, rightDeclares⟩ := (rightNode.filledId_iff _).mp ⟨rfl, rightFilled⟩
    rw [leftField, rightField, Bool.eq_false_iff, ne_eq, Value.same_str_iff]
    intro equal
    cases equal
    exact distinct leftId ⟨leftDeclares, rightDeclares⟩

/-! ## References to nodes -/

/-- References found so far stay found. -/
theorem orphans_ne_nil {found : List Value} (someFound : found ≠ []) (known refs : List Value) :
    orphans known found refs ≠ [] := by
  induction refs generalizing found with
  | nil => exact someFound
  | cons first rest inductionHypothesis =>
      rw [orphans]
      split
      · exact inductionHypothesis (by simp)
      · exact inductionHypothesis someFound

/-- No reference is an orphan exactly when all are known. -/
theorem orphans_eq_nil_iff {known refs : List Value} :
    orphans known [] refs = [] ↔ ∀ ref ∈ refs, isKnown known ref = true := by
  induction refs with
  | nil => simp [orphans]
  | cons first rest inductionHypothesis =>
      rw [orphans, List.forall_mem_cons]
      cases isKnown known first with
      | true => simpa using inductionHypothesis
      | false =>
          have found : orphans known [first] rest ≠ [] := orphans_ne_nil (by simp) known rest
          simpa [isAmong] using found

theorem isKnown_iff {known : List Value} {ref : Value} :
    isKnown known ref = true ↔ ∃ text, ref = .str text ∧ .str text ∈ known := by
  cases ref with
  | str text => simp [isKnown, isAmong_str_iff]
  | _ => simp [isKnown]

/-- All filled ids and names of nodes can be keys, and they are the labels of the nodes. -/
theorem labelsOf_eq_ok {nodes : List Entries} (eachNode : ∀ node ∈ nodes, IsNode node) :
    ∃ known, labelsOf nodes = .ok known ∧
      ∀ text, .str text ∈ known ↔
        ∃ node ∈ nodes, DeclaresId node text ∨ HasName node text := by
  have labels_iff : ∀ value,
      value ∈ (nodes.flatMap fun node => [Value.field "id" node, Value.field "name" node]).filter
          (!·.isEmpty) ↔
        ∃ node ∈ nodes, ∃ text, value = .str text ∧ (DeclaresId node text ∨ HasName node text) := by
    intro value
    simp only [List.mem_filter, List.mem_flatMap, List.mem_cons, List.not_mem_nil, or_false,
      Bool.not_eq_eq_eq_not, Bool.not_true]
    constructor
    · intro isLabel
      obtain ⟨⟨node, member, rfl | rfl⟩, filled⟩ := isLabel
      · obtain ⟨text, equal, declared⟩ := ((eachNode node member).filledId_iff _).mp ⟨rfl, filled⟩
        exact ⟨node, member, text, equal, .inl declared⟩
      · obtain ⟨text, equal, named⟩ := ((eachNode node member).filledName_iff _).mp ⟨rfl, filled⟩
        exact ⟨node, member, text, equal, .inr named⟩
    · intro labels
      obtain ⟨node, member, text, equal, declared | named⟩ := labels
      · obtain ⟨field, filled⟩ := ((eachNode node member).filledId_iff _).mpr ⟨text, equal, declared⟩
        exact ⟨⟨node, member, .inl field.symm⟩, filled⟩
      · obtain ⟨field, filled⟩ := ((eachNode node member).filledName_iff _).mpr ⟨text, equal, named⟩
        exact ⟨⟨node, member, .inr field.symm⟩, filled⟩
  refine ⟨_, Sequence.mapM_eq_ok_iff.mpr (List.forall₂_same.mpr ?_), ?_⟩
  · intro label member
    obtain ⟨_, _, text, rfl, _⟩ := (labels_iff label).mp member
    rfl
  · intro text
    rw [labels_iff]
    simp

theorem mem_linkReferences_iff {channel ref : Value} :
    ref ∈ linkReferences channel ↔
      ∃ way link, LinkAt channel way link ∧ (reference link).isEmpty = false ∧
        ref = reference link := by
  simp only [linkReferences, List.mem_filter, List.mem_map, Value.mem_links_iff,
    Bool.not_eq_eq_eq_not, Bool.not_true]
  constructor
  · intro listed
    obtain ⟨⟨link, ⟨way, stands⟩, rfl⟩, filled⟩ := listed
    exact ⟨way, link, stands, filled, rfl⟩
  · intro refers
    obtain ⟨way, link, stands, filled, rfl⟩ := refers
    exact ⟨⟨link, ⟨way, stands⟩, rfl⟩, filled⟩

/-- What connections refer to: their sources, and what the links under their channels refer to. -/
theorem mem_references_iff {connections : Entries} {ref : Value} :
    ref ∈ references connections ↔
      ∃ entry ∈ connections, ref = entry.1 ∨
        ∃ channels, entry.2 = .map channels ∧
          ∃ channel ∈ channels, ref ∈ linkReferences channel.2 := by
  rw [references, List.mem_flatMap]
  refine exists_congr fun entry => and_congr_right fun _ => ?_
  obtain ⟨source, channels⟩ := entry
  rw [List.mem_cons]
  cases channels <;> simp

/-- The third stage passes exactly when every reference is the label of a node. -/
theorem checkReferences_eq_ok_iff {nodes : List Entries} {connections : Entries}
    (eachNode : ∀ node ∈ nodes, IsNode node) :
    checkReferences nodes (.map connections) = .ok () ↔
      ∀ ref ∈ references connections, IsLabelOf nodes ref := by
  obtain ⟨known, labels, known_iff⟩ := labelsOf_eq_ok eachNode
  have passes : (refuse ((orphans known [] (references connections)).map orphanIssue) = .ok ()) ↔
      ∀ ref ∈ references connections, IsLabelOf nodes ref := by
    rw [refuse_eq_ok_iff, List.map_eq_nil_iff, orphans_eq_nil_iff]
    simp only [isKnown_iff, known_iff, IsLabelOf]
  rw [checkReferences]
  split
  next empty =>
    have none : connections = [] := by simpa [Value.isEmpty] using empty
    simp [none, references]
  next =>
    rw [labels]
    exact passes

/-! ## All stages -/

theorem isWorkflow_iff {document : Entries} {nodes : List Entries} {connections : Entries} :
    IsWorkflow document nodes connections ↔
      HasShape document nodes connections ∧
        (nodes.Pairwise fun left right => ∀ id, ¬ (DeclaresId left id ∧ DeclaresId right id)) ∧
        ∀ ref ∈ references connections, IsLabelOf nodes ref := by
  constructor
  · intro workflow
    refine ⟨workflow.toHasShape, workflow.distinctIds, fun ref member => ?_⟩
    obtain ⟨entry, listed, rfl | ⟨channels, isMap, channel, within, linked⟩⟩ :=
      mem_references_iff.mp member
    · exact workflow.knownSources entry listed
    · obtain ⟨way, link, stands, filled, rfl⟩ := mem_linkReferences_iff.mp linked
      exact workflow.knownTargets entry listed channels isMap channel within way link stands filled
  · intro stages
    obtain ⟨shape, distinctIds, known⟩ := stages
    refine ⟨shape, distinctIds, fun entry listed => ?_, ?_⟩
    · exact known entry.1 (mem_references_iff.mpr ⟨entry, listed, .inl rfl⟩)
    · intro entry listed channels isMap channel within way link stands filled
      have linked := mem_linkReferences_iff.mpr ⟨way, link, stands, filled, rfl⟩
      exact known _ (mem_references_iff.mpr
        ⟨entry, listed, .inr ⟨channels, isMap, channel, within, linked⟩⟩)

/-- On a document of the right shape the other stages follow one after another. -/
theorem check_of_shape {document : Entries} {nodes : List Entries} {connections : Entries}
    (shape : HasShape document nodes connections) :
    check Schema.workflow (.map document) = do
      checkIds nodes
      checkReferences nodes (.map connections)
      return ⟨document, nodes⟩ := by
  have schemaMet : checkSchema Schema.workflow (.map document) = .ok () :=
    checkSchema_eq_ok_iff.mpr
      ((Schema.meets_workflow _).mpr ⟨document, rfl, nodes, connections, shape⟩)
  rw [check, schemaMet, Sequence.ok_bind, entriesOf, Sequence.ok_bind, nodesOf_eq_ok shape,
    Sequence.ok_bind, Value.field_eq_of_found shape.connectionsField]

/-- On a document of the right shape the second and third stage decide. -/
theorem check_eq_ok_iff_of_shape {document : Entries} {nodes : List Entries} {connections : Entries}
    (shape : HasShape document nodes connections) {accepted : Accepted} :
    check Schema.workflow (.map document) = .ok accepted ↔
      accepted = ⟨document, nodes⟩ ∧ IsWorkflow document nodes connections := by
  rw [isWorkflow_iff, ← checkIds_eq_ok_iff shape.eachNode,
    ← checkReferences_eq_ok_iff shape.eachNode, check_of_shape shape]
  simp only [Sequence.bind_eq_ok_iff]
  constructor
  · intro passes
    obtain ⟨_, idsPass, _, referencesPass, equal⟩ := passes
    cases equal
    exact ⟨rfl, shape, idsPass, referencesPass⟩
  · intro stages
    obtain ⟨rfl, _, idsPass, referencesPass⟩ := stages
    exact ⟨(), idsPass, (), referencesPass, rfl⟩

/-- A document is accepted with its nodes exactly when it is a workflow with these nodes. -/
theorem check_eq_ok_iff {document : Value} {accepted : Accepted} :
    check Schema.workflow document = .ok accepted ↔
      document = .map accepted.document ∧
        ∃ connections, IsWorkflow accepted.document accepted.nodes connections := by
  constructor
  · intro passed
    obtain ⟨_, schemaMet, _⟩ := Sequence.bind_eq_ok_iff.mp passed
    obtain ⟨entries, rfl, nodes, connections, shape⟩ :=
      (Schema.meets_workflow document).mp (checkSchema_eq_ok_iff.mp schemaMet)
    obtain ⟨rfl, workflow⟩ := (check_eq_ok_iff_of_shape shape).mp passed
    exact ⟨rfl, connections, workflow⟩
  · intro isAccepted
    obtain ⟨rfl, connections, workflow⟩ := isAccepted
    exact (check_eq_ok_iff_of_shape workflow.toHasShape).mpr ⟨rfl, workflow⟩

/-- The structure check accepts exactly the workflows. -/
theorem check_accepts_iff (document : Value) :
    (∃ accepted, check Schema.workflow document = .ok accepted) ↔
      ∃ entries nodes connections, document = .map entries ∧
        IsWorkflow entries nodes connections := by
  constructor
  · intro accepts
    obtain ⟨accepted, passed⟩ := accepts
    obtain ⟨equal, connections, workflow⟩ := check_eq_ok_iff.mp passed
    exact ⟨accepted.document, accepted.nodes, connections, equal, workflow⟩
  · intro isWorkflow
    obtain ⟨entries, nodes, connections, equal, workflow⟩ := isWorkflow
    exact ⟨⟨entries, nodes⟩, check_eq_ok_iff.mpr ⟨equal, connections, workflow⟩⟩

end Document

end WorkflowLint
