import WorkflowLint.Proofs.SchemaMeaning

/-!
Contract: the shape of workflow documents, field by field.

Owns: kinds of values, fields that are required or optional, and what nodes, channels, tags and whole
documents are.  A document meets the workflow schema exactly when it has this shape.

Does not own: ids that several nodes declare and references to nodes, which no schema looks at.
-/

set_option autoImplicit false

namespace WorkflowLint

/-! ## Kinds of values -/

namespace Value

/-- A text. -/
def IsText (value : Value) : Prop := ∃ text, value = .str text

/-- A text that is not empty. -/
def IsFilledText (value : Value) : Prop := ∃ text, value = .str text ∧ text ≠ ""

/-- A truth value. -/
def IsTruth (value : Value) : Prop := ∃ flag, value = .bool flag

/-- A number, whole or not.  A truth value is none. -/
def IsNumber (value : Value) : Prop :=
  (∃ number, value = .int number) ∨ ∃ number, value = .float number

/-- A list. -/
def IsList (value : Value) : Prop := ∃ items, value = .list items

/-- A mapping. -/
def IsMapping (value : Value) : Prop := ∃ entries, value = .map entries

end Value

namespace TypeName

variable (value : Value)

@[simp] theorem holds_array : holds .array value = true ↔ value.IsList := by
  cases value <;> simp [holds, Value.IsList]

@[simp] theorem holds_boolean : holds .boolean value = true ↔ value.IsTruth := by
  cases value <;> simp [holds, Value.IsTruth]

@[simp] theorem holds_null : holds .null value = true ↔ value = .null := by
  cases value <;> simp [holds]

@[simp] theorem holds_number : holds .number value = true ↔ value.IsNumber := by
  cases value <;> simp [holds, Value.IsNumber]

@[simp] theorem holds_object : holds .object value = true ↔ value.IsMapping := by
  cases value <;> simp [holds, Value.IsMapping]

@[simp] theorem holds_string : holds .string value = true ↔ value.IsText := by
  cases value <;> simp [holds, Value.IsText]

end TypeName

/-! ## Fields, nodes and documents -/

namespace Document

/-- A field is there and of a kind. -/
def Required (name : String) (kind : Value → Prop) (entries : Entries) : Prop :=
  ∃ value, Value.lookupText name entries = some value ∧ kind value

/-- A field, where present, is of a kind. -/
def Optional (name : String) (kind : Value → Prop) (entries : Entries) : Prop :=
  ∀ value, Value.lookupText name entries = some value → kind value

/-- The kinds of the fields of a node other than its id, name and type. -/
def nodeFieldKinds : List (String × (Value → Prop)) :=
  [("typeVersion", fun value => value.IsNumber ∨ value.IsText), ("position", Value.IsList),
    ("parameters", fun value => value.IsMapping ∨ value = .null),
    ("credentials", fun value => value.IsMapping ∨ value = .null),
    ("settings", fun value => value.IsMapping ∨ value = .null), ("disabled", Value.IsTruth),
    ("notes", Value.IsText), ("continueOnFail", Value.IsTruth),
    ("retryOnFail", fun value => value.IsTruth ∨ value.IsText),
    ("waitBetweenTries", fun value => value.IsNumber ∨ value.IsText),
    ("maxTries", fun value => value.IsNumber ∨ value.IsText), ("alwaysOutputData", Value.IsTruth),
    ("executeOnce", Value.IsTruth), ("onError", Value.IsText)]

/-- A mapping that describes a node. -/
structure IsNode (node : Entries) : Prop where
  type : Required "type" Value.IsFilledText node
  name : Required "name" Value.IsFilledText node
  id : Optional "id" Value.IsFilledText node
  further : ∀ field ∈ nodeFieldKinds, Optional field.1 field.2 node

/-- Nothing, or channels whose values are lists, mappings or nothing. -/
def IsChannels (value : Value) : Prop :=
  value = .null ∨
    ∃ channels, value = .map channels ∧
      ∀ channel ∈ channels, channel.2.IsList ∨ channel.2.IsMapping ∨ channel.2 = .null

/-- A tag: a text, or a mapping whose id and name, where present, are texts. -/
def IsTag (value : Value) : Prop :=
  value.IsText ∨
    ∃ entries, value = .map entries ∧
      Optional "id" Value.IsText entries ∧ Optional "name" Value.IsText entries

/-- A list of tags. -/
def IsTagList (value : Value) : Prop := ∃ tags, value = .list tags ∧ ∀ tag ∈ tags, IsTag tag

/-- A list of mappings that describe nodes. -/
def IsNodeList (value : Value) : Prop :=
  ∃ nodes : List Entries, value = .list (nodes.map .map) ∧ ∀ node ∈ nodes, IsNode node

/-- A mapping of channels. -/
def IsConnections (value : Value) : Prop :=
  ∃ connections, value = .map connections ∧ ∀ entry ∈ connections, IsChannels entry.2

/-- The kinds of the fields of a document other than its nodes and connections. -/
def documentFieldKinds : List (String × (Value → Prop)) :=
  [("id", fun value => value.IsText ∨ value.IsNumber), ("name", Value.IsText),
    ("active", Value.IsTruth), ("settings", fun value => value.IsMapping ∨ value = .null),
    ("versionId", fun value => value.IsText ∨ value = .null), ("tags", IsTagList)]

/-- A document with its nodes and connections has the shape of a workflow. -/
structure HasShape (document : Entries) (nodes : List Entries) (connections : Entries) : Prop where
  nodesField : Value.lookupText "nodes" document = some (.list (nodes.map .map))
  eachNode : ∀ node ∈ nodes, IsNode node
  connectionsField : Value.lookupText "connections" document = some (.map connections)
  eachSource : ∀ entry ∈ connections, IsChannels entry.2
  further : ∀ field ∈ documentFieldKinds, Optional field.1 field.2 document

end Document

/-! ## The schema demands the shape -/

namespace Schema

open Document

theorem meets_one (name : TypeName) (value : Value) :
    (one name).Meets value ↔ name.holds value = true := by
  simp [one, Meets]

theorem meets_anyOf (names : List TypeName) (value : Value) :
    (anyOf names).Meets value ↔ ∃ name ∈ names, name.holds value = true := by
  rw [anyOf, Meets]

theorem meets_either (first second : TypeName) (value : Value) :
    (anyOf [first, second]).Meets value ↔
      first.holds value = true ∨ second.holds value = true := by
  simp [meets_anyOf]

private theorem meets_filledText (value : Value) : filledText.Meets value ↔ value.IsFilledText := by
  cases value with
  | str text =>
      have nonempty : 1 ≤ text.length ↔ text ≠ "" := by
        rw [Nat.one_le_iff_ne_zero, ne_eq, String.length_eq_zero_iff]
      simp [filledText, Meets, MeetsAll, meets_one, Value.IsFilledText, Value.IsText, nonempty]
  | _ => simp [filledText, Meets, MeetsAll, meets_one, Value.IsFilledText, Value.IsText]

theorem meets_mapping (names : List String) (fields : List (String × Schema)) (value : Value) :
    (every [one .object, .required names, .properties fields]).Meets value ↔
      ∃ entries, value = .map entries ∧
        (∀ name ∈ names, ∃ child, Value.lookupText name entries = some child) ∧
        FieldsMeet fields entries := by
  cases value with
  | map entries => simp [Meets, MeetsAll, meets_one, Value.IsMapping]
  | _ => simp [Meets, MeetsAll, meets_one, Value.IsMapping]

private theorem nodeFields_meet (fields : Entries) :
    FieldsMeet nodeFields fields ↔
      Optional "type" Value.IsFilledText fields ∧ Optional "name" Value.IsFilledText fields ∧
        Optional "id" Value.IsFilledText fields ∧
        ∀ field ∈ nodeFieldKinds, Optional field.1 field.2 fields := by
  simp only [nodeFields, FieldsMeet, nodeFieldKinds, List.forall_mem_cons, Optional,
    meets_filledText, meets_one, meets_either, TypeName.holds_array, TypeName.holds_boolean,
    TypeName.holds_null, TypeName.holds_number, TypeName.holds_object, TypeName.holds_string]
  tauto

/-- A field that must be there and, where it is, be of a kind. -/
theorem required_iff {name : String} {kind : Value → Prop} {entries : Entries} :
    Required name kind entries ↔
      (∃ value, Value.lookupText name entries = some value) ∧ Optional name kind entries := by
  constructor
  · intro required
    obtain ⟨value, found, ofKind⟩ := required
    exact ⟨⟨value, found⟩, fun other otherFound =>
      Option.some.inj (found.symm.trans otherFound) ▸ ofKind⟩
  · intro both
    obtain ⟨⟨value, found⟩, ofKind⟩ := both
    exact ⟨value, found, ofKind value found⟩

private theorem isNode_iff (fields : Entries) :
    IsNode fields ↔
      (∀ name ∈ ["type", "name"], ∃ child, Value.lookupText name fields = some child) ∧
        FieldsMeet nodeFields fields := by
  rw [nodeFields_meet]
  constructor
  · intro isNode
    obtain ⟨typePresent, typeKind⟩ := required_iff.mp isNode.type
    obtain ⟨namePresent, nameKind⟩ := required_iff.mp isNode.name
    exact ⟨by simp [typePresent, namePresent], typeKind, nameKind, isNode.id, isNode.further⟩
  · intro meets
    obtain ⟨present, typeKind, nameKind, idKind, further⟩ := meets
    exact
      { type := required_iff.mpr ⟨present "type" (by simp), typeKind⟩
        name := required_iff.mpr ⟨present "name" (by simp), nameKind⟩
        id := idKind
        further := further }

private theorem meets_node (value : Value) :
    node.Meets value ↔ ∃ fields, value = .map fields ∧ IsNode fields := by
  simp only [node, meets_mapping, isNode_iff]

/-- A list of values that are all mappings of a sort is the list of those mappings. -/
theorem mappings_iff {sort : Entries → Prop} (items : List Value) :
    (∀ item ∈ items, ∃ fields, item = .map fields ∧ sort fields) ↔
      ∃ mappings : List Entries, items = mappings.map .map ∧ ∀ fields ∈ mappings, sort fields := by
  constructor
  · intro each
    induction items with
    | nil => exact ⟨[], rfl, by simp⟩
    | cons item rest inductionHypothesis =>
        obtain ⟨fields, rfl, ofSort⟩ := each item (by simp)
        obtain ⟨mappings, rfl, restOfSort⟩ := inductionHypothesis fun other member =>
          each other (List.mem_cons_of_mem _ member)
        exact ⟨fields :: mappings, rfl, List.forall_mem_cons.mpr ⟨ofSort, restOfSort⟩⟩
  · intro areMappings item member
    obtain ⟨mappings, rfl, each⟩ := areMappings
    obtain ⟨fields, listed, rfl⟩ := List.mem_map.mp member
    exact ⟨fields, rfl, each fields listed⟩

theorem meets_list (each : Schema) (value : Value) :
    (every [one .array, .items each]).Meets value ↔
      ∃ items, value = .list items ∧ ∀ item ∈ items, each.Meets item := by
  cases value <;> simp [Meets, MeetsAll, meets_one, Value.IsList]

private theorem meets_nodes (value : Value) :
    (every [one .array, .items node]).Meets value ↔ IsNodeList value := by
  simp only [IsNodeList, meets_list, meets_node, mappings_iff]
  constructor
  · intro listed
    obtain ⟨items, rfl, nodes, rfl, each⟩ := listed
    exact ⟨nodes, rfl, each⟩
  · intro found
    obtain ⟨nodes, rfl, each⟩ := found
    exact ⟨nodes.map .map, rfl, nodes, rfl, each⟩

theorem others_nil (entries : Entries) : others [] entries = entries := by
  rw [others, List.filter_eq_self]
  rintro ⟨key, child⟩ _
  cases key <;> rfl

private theorem meets_channels (value : Value) : channels.Meets value ↔ IsChannels value := by
  cases value with
  | map entries =>
      simp [channels, Meets, MeetsAll, meets_anyOf, others_nil, IsChannels, Value.IsMapping]
  | _ => simp [channels, Meets, MeetsAll, meets_anyOf, IsChannels, Value.IsMapping]

private theorem meets_connections (value : Value) :
    (every [one .object, .additional [] channels]).Meets value ↔ IsConnections value := by
  cases value with
  | map entries =>
      simp [Meets, MeetsAll, meets_one, others_nil, Value.IsMapping, meets_channels, IsConnections]
  | _ => simp [Meets, MeetsAll, meets_one, Value.IsMapping, IsConnections]

private theorem meets_tag (value : Value) : tag.Meets value ↔ IsTag value := by
  cases value with
  | map entries =>
      simp [tag, Meets, MeetsOne, MeetsAll, FieldsMeet, meets_one, IsTag, Value.IsText,
        Value.IsMapping, Optional]
  | _ => simp [tag, Meets, MeetsOne, MeetsAll, meets_one, IsTag, Value.IsText, Value.IsMapping]

private theorem meets_tags (value : Value) :
    (every [one .array, .items tag]).Meets value ↔ IsTagList value := by
  simp only [IsTagList, meets_list, meets_tag]

private theorem workflowFields_meet (document : Entries) :
    FieldsMeet workflowFields document ↔
      Optional "nodes" IsNodeList document ∧ Optional "connections" IsConnections document ∧
        ∀ field ∈ documentFieldKinds, Optional field.1 field.2 document := by
  simp only [workflowFields, FieldsMeet, documentFieldKinds, List.forall_mem_cons, Optional,
    meets_nodes, meets_connections, meets_tags, meets_one, meets_either,
    TypeName.holds_boolean, TypeName.holds_null, TypeName.holds_number, TypeName.holds_object,
    TypeName.holds_string]
  tauto

private theorem hasShape_iff (document : Entries) :
    (∃ nodes connections, HasShape document nodes connections) ↔
      Required "nodes" IsNodeList document ∧ Required "connections" IsConnections document ∧
        ∀ field ∈ documentFieldKinds, Optional field.1 field.2 document := by
  constructor
  · intro hasShape
    obtain ⟨nodes, connections, shape⟩ := hasShape
    exact ⟨⟨_, shape.nodesField, nodes, rfl, shape.eachNode⟩,
      ⟨_, shape.connectionsField, connections, rfl, shape.eachSource⟩, shape.further⟩
  · intro fieldKinds
    obtain ⟨nodesKind, connectionsKind, further⟩ := fieldKinds
    obtain ⟨_, nodesField, nodes, rfl, eachNode⟩ := nodesKind
    obtain ⟨_, connectionsField, connections, rfl, eachSource⟩ := connectionsKind
    exact ⟨nodes, connections, nodesField, eachNode, connectionsField, eachSource, further⟩

/-- Exactly the documents of the shape of a workflow meet the workflow schema. -/
theorem meets_workflow (value : Value) :
    workflow.Meets value ↔
      ∃ document, value = .map document ∧
        ∃ nodes connections, HasShape document nodes connections := by
  simp only [workflow, meets_mapping, workflowFields_meet, hasShape_iff, required_iff]
  refine exists_congr fun document => and_congr_right fun _ => ?_
  simp only [List.forall_mem_cons]
  tauto

end Schema

end WorkflowLint
