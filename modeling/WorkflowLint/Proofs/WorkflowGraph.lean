import WorkflowLint.Document.Workflow
import WorkflowLint.Json.Writer
import WorkflowLint.Proofs.GraphEdges

/-!
Contract: the graph of a workflow text.

A text has a graph exactly when it spells a workflow.  Its nodes are those that the document describes,
in order, and its edges are those of the document's links, in order.  Every edge joins two nodes of the
graph.  Ids of nodes may repeat, because a node without an id takes its name for one.
-/

set_option autoImplicit false

namespace WorkflowLint.Document

open Listing
open Value (LinkAt reference)

/-! ## Texts that have a graph -/

theorem read_eq_ok {schema : Schema} {text : String} {document : Value} {accepted : Accepted}
    {result : Outline} (decoded : decode text.toList = .ok document)
    (passed : check schema document = .ok accepted)
    (outlined : outline text.toList accepted = .ok result) : read schema text = .ok result := by
  have both := Sequence.bind_eq_ok_iff.mpr ⟨accepted, passed, outlined⟩
  rw [read, decoded]
  simp only [both]

theorem graph_eq_ok {text : String} {result : Outline} {built : Graph}
    (readText : read Schema.workflow text = .ok result) (taken : result.toGraph? = some built) :
    graph text = .ok built := by
  rw [graph, readText]
  simp only [taken]

/-- A label of a workflow's nodes stands for a node of the graph. -/
theorem resolves_of_isLabelOf {nodes : List Entries} {label : Value}
    (isLabel : IsLabelOf nodes label) :
    ∃ text id, label = .str text ∧ Resolves (nodes.map describedNode) text id := by
  obtain ⟨text, isText, node, member, declares⟩ := isLabel
  have labelled : (describedNode node).id = text ∨ (describedNode node).name = some text := by
    rcases declares with declared | named
    · exact .inl (describedNode_id_of_declared declared)
    · exact .inr (describedNode_name named)
  obtain ⟨id, resolves⟩ := exists_resolves (List.mem_map_of_mem member) labelled
  exact ⟨text, id, isText, resolves⟩

section Workflow

variable {document : Entries} {nodes : List Entries} {connections : Entries}
  (workflow : IsWorkflow document nodes connections)
include workflow

/-- The edges of the outline of a workflow. -/
theorem outlineEdges_of_workflow :
    ∃ edges, outlineEdges ((nodes.map describedNode).map .ofNode) (.map connections) = .ok edges ∧
      List.Forall₂ (fun found edge => Draws (nodes.map describedNode) found.2 edge)
        (linkSites connections) edges := by
  apply outlineEdges_draw
  · intro node member
    obtain ⟨fields, listed, rfl⟩ := List.mem_map.mp member
    exact describedNode_name_filled (workflow.eachNode fields listed)
  · exact workflow.eachSource
  · intro entry member
    exact resolves_of_isLabelOf (workflow.knownSources entry member)
  · intro found member
    obtain ⟨standsAt, filled⟩ := mem_linkSites_iff.mp member
    obtain ⟨place, site⟩ := found
    cases standsAt with
    | intro source under stands =>
        exact resolves_of_isLabelOf (workflow.knownTargets _ (List.mem_of_getElem? source) _ rfl _
          (List.mem_of_getElem? under) _ _ stands filled)

/-- The outline of a workflow. -/
theorem outline_of_workflow (text : List Char) :
    ∃ edges, outline text ⟨document, nodes⟩ =
        .ok { nodes := (nodes.map describedNode).map .ofNode
              edges := edges
              hasCredentials := !(Value.field "credentials" document).isEmpty
              lines := linesOf text
                (((nodes.map describedNode).map OutlineNode.ofNode).map
                  fun node => (node.id, node.name)) } ∧
      List.Forall₂ (fun found edge => Draws (nodes.map describedNode) found.2 edge)
        (linkSites connections) edges := by
  obtain ⟨edges, drawn, related⟩ := outlineEdges_of_workflow workflow
  refine ⟨edges, ?_, related⟩
  unfold outline
  simp only [workflow.nodesField, Value.elements?, Option.isNone_some, Bool.false_eq_true,
    ↓reduceIte, Value.field_eq_of_found workflow.connectionsField]
  exact Sequence.bind_eq_ok_iff.mpr ⟨_, outlineNodes_eq_ok workflow.eachNode,
    Sequence.bind_eq_ok_iff.mpr ⟨(), checkLabels_eq_ok _,
      Sequence.bind_eq_ok_iff.mpr ⟨edges, drawn, rfl⟩⟩⟩

/-- A text that spells a workflow has a graph: the nodes that the document describes, and an edge for
each link that refers to something. -/
theorem graph_of_workflow {text : String} (decoded : decode text.toList = .ok (.map document)) :
    ∃ edges, graph text =
        .ok { nodes := nodes.map describedNode
              edges := edges
              hasCredentials := !(Value.field "credentials" document).isEmpty
              nodeLines := graphLines text.toList (nodes.map describedNode) } ∧
      List.Forall₂ (fun found edge => IsEdgeOf (nodes.map describedNode) found.2 edge)
        (linkSites connections) edges := by
  obtain ⟨drawn, outlined, draws⟩ := outline_of_workflow workflow text.toList
  obtain ⟨edges, taken, related⟩ := Sequence.mapM_some_related draws
  have passed : check Schema.workflow (.map document) = .ok ⟨document, nodes⟩ :=
    check_eq_ok_iff.mpr ⟨rfl, connections, workflow⟩
  have nodesTaken : ((nodes.map describedNode).map OutlineNode.ofNode).mapM OutlineNode.toNode? =
      some (nodes.map describedNode) := by
    rw [List.mapM_map, Sequence.mapM_eq_some_iff]
    exact List.forall₂_same.mpr fun node _ => OutlineNode.toNode?_ofNode node
  have linesTaken := graphLines_eq_some text.toList (nodes.map describedNode)
  refine ⟨edges, graph_eq_ok (read_eq_ok decoded passed outlined) ?_, related⟩
  simp only [Outline.toGraph?, nodesTaken, taken, linesTaken, Option.bind_eq_bind, Option.bind_some]
  rfl

end Workflow

/-- Only texts that spell workflows have a graph. -/
theorem isWorkflow_of_graph {text : String} {built : Graph} (succeeds : graph text = .ok built) :
    ∃ document nodes connections, decode text.toList = .ok (.map document) ∧
      IsWorkflow document nodes connections := by
  unfold graph read at succeeds
  cases decoded : decode text.toList with
  | error fault => simp [decoded] at succeeds
  | ok document =>
      rw [decoded] at succeeds
      cases passed : check Schema.workflow document with
      | error rejection => simp [passed, bind, Except.bind] at succeeds
      | ok accepted =>
          obtain ⟨rfl, connections, workflow⟩ := check_eq_ok_iff.mp passed
          exact ⟨accepted.document, accepted.nodes, connections, rfl, workflow⟩

/-! ## Small workflows -/

/-- A text has a graph when reading its characters step by step gives one. -/
theorem graph_ofList {α : Type} {chars : List Char} {view : Graph → α} {seen : α}
    (evaluated : ((decode chars).toOption.bind fun document =>
      (check Schema.workflow document >>= outline chars).toOption.bind fun result =>
        result.toGraph?.map view) = some seen) :
    ∃ document accepted built, decode (String.ofList chars).toList = .ok document ∧
      check Schema.workflow document = .ok accepted ∧ graph (String.ofList chars) = .ok built ∧
      view built = seen := by
  obtain ⟨document, decoded, afterDecoding⟩ := Option.bind_eq_some_iff.mp evaluated
  obtain ⟨result, outlined, afterOutline⟩ := Option.bind_eq_some_iff.mp afterDecoding
  obtain ⟨built, taken, isSeen⟩ := Option.map_eq_some_iff.mp afterOutline
  rw [Sequence.toOption_eq_some_iff] at decoded outlined
  obtain ⟨accepted, passed, outlines⟩ := Sequence.bind_eq_ok_iff.mp outlined
  have decodedText : decode (String.ofList chars).toList = .ok document := by
    rw [String.toList_ofList]
    exact decoded
  have outlinedText : outline (String.ofList chars).toList accepted = .ok result := by
    rw [String.toList_ofList]
    exact outlines
  exact ⟨document, accepted, built, decodedText, passed,
    graph_eq_ok (read_eq_ok decodedText passed outlinedText) taken, isSeen⟩

/-- A document with these nodes and connections. -/
def workflowDocument (nodes : List (List (String × String))) (connections : List (String × Value)) :
    Value :=
  .record
    [("nodes", .list (nodes.map fun fields =>
        .record (fields.map fun (name, text) => (name, .str text)))),
      ("connections", .record connections)]

/-- Two nodes, the second without an id.  The first has links in its second output only: to the
second node, to itself in a list of its own, and one that refers to nothing. -/
def forkedDocument : Value :=
  workflowDocument
    [[("id", "a"), ("name", "A"), ("type", "http")], [("name", "B"), ("type", "set")]]
    [("A", .record [("main", .list [.null, .list
      [.record [("node", .str "B")], .list [.record [("node", .str "A")]],
        .record [("node", .str "")]]])])]

def forkedText : String :=
  String.ofList (Json.compact forkedDocument)

theorem graph_forkedText :
    ∃ document accepted built, decode forkedText.toList = .ok document ∧
      check Schema.workflow document = .ok accepted ∧ graph forkedText = .ok built ∧
      built.nodes.map (·.id) = ["a", "B"] ∧
      built.edges = [⟨"a", "B", .error⟩, ⟨"a", "a", .error⟩] := by
  obtain ⟨document, accepted, built, decoded, passed, succeeds, seen⟩ :=
    @graph_ofList _ (Json.compact forkedDocument)
      (fun built => (built.nodes.map (·.id), built.edges))
      (["a", "B"], [⟨"a", "B", .error⟩, ⟨"a", "a", .error⟩]) (by decide +kernel)
  obtain ⟨ids, edges⟩ := Prod.mk.inj seen
  exact ⟨document, accepted, built, decoded, passed, succeeds, ids, edges⟩

/-! ## Edges -/

/-- The edges of the graph of a workflow follow its links.  All links that refer to something are
listed in the order of the document, and the edges are the edges of the listed links, one by one. -/
theorem graph_edges_follow_links {text : String} {document : Value} {accepted : Accepted}
    (decoded : decode text.toList = .ok document)
    (passed : check Schema.workflow document = .ok accepted) :
    ∃ built connections sites,
      graph text = .ok built ∧
      built.nodes = accepted.nodes.map describedNode ∧
      Value.lookupText "connections" accepted.document = some (.map connections) ∧
      Ordered sites ∧
      (∀ place site, (place, site) ∈ sites ↔
        StandsAt connections place site ∧ (reference site.link).isEmpty = false) ∧
      ∀ edges, List.Forall₂ (fun found edge => IsEdgeOf built.nodes found.2 edge) sites edges ↔
        edges = built.edges := by
  obtain ⟨rfl, connections, workflow⟩ := check_eq_ok_iff.mp passed
  obtain ⟨edges, succeeds, related⟩ := graph_of_workflow workflow decoded
  refine ⟨_, connections, linkSites connections, succeeds, rfl, workflow.connectionsField,
    linkSites_ordered connections, fun _ _ => mem_linkSites_iff, ?_⟩
  -- Order and members fix the listing; a link has one edge, so the listing fixes the edges.
  have oneEdge : Relator.RightUnique fun (found : List Nat × LinkSite) (edge : Edge) =>
      IsEdgeOf (accepted.nodes.map describedNode) found.2 edge :=
    fun _ _ _ => IsEdgeOf.unique
  intro others
  constructor
  · intro othersRelated
    exact List.right_unique_forall₂' oneEdge othersRelated related
  · intro equal
    rw [equal]
    exact related

/-- In the graph of the forked workflow the empty slot counts, so both edges are followed on
failure. -/
theorem graph_edges_follow_links_forked :
    ∃ document accepted built connections sites,
      decode forkedText.toList = .ok document ∧
      check Schema.workflow document = .ok accepted ∧
      graph forkedText = .ok built ∧
      built.edges = [⟨"a", "B", .error⟩, ⟨"a", "a", .error⟩] ∧
      Value.lookupText "connections" accepted.document = some (.map connections) ∧
      (∀ place site, (place, site) ∈ sites ↔
        StandsAt connections place site ∧ (reference site.link).isEmpty = false) ∧
      List.Forall₂ (fun found edge => IsEdgeOf built.nodes found.2 edge) sites built.edges := by
  obtain ⟨document, accepted, built, decoded, passed, succeeds, _, edges⟩ := graph_forkedText
  obtain ⟨other, connections, sites, otherSucceeds, _, found, _, listed, exactly⟩ :=
    graph_edges_follow_links decoded passed
  cases succeeds.symm.trans otherSucceeds
  exact ⟨document, accepted, built, connections, sites, decoded, passed, succeeds, edges, found, listed,
    (exactly built.edges).mpr rfl⟩

/-- Every edge of the graph of a text joins two nodes of the graph. -/
theorem graph_edges_join_nodes {text : String} {built : Graph} (succeeds : graph text = .ok built) :
    ∀ edge ∈ built.edges, (∃ node ∈ built.nodes, node.id = edge.source) ∧
      ∃ node ∈ built.nodes, node.id = edge.target := by
  intro edge member
  obtain ⟨document, nodes, connections, decoded, workflow⟩ := isWorkflow_of_graph succeeds
  obtain ⟨edges, described, related⟩ := graph_of_workflow workflow decoded
  cases succeeds.symm.trans described
  obtain ⟨found, _, isEdge⟩ := Sequence.exists_related_of_mem related member
  obtain ⟨_, _, source, sourceLast, isSource⟩ := isEdge.source
  obtain ⟨_, _, target, targetLast, isTarget⟩ := isEdge.target
  exact ⟨⟨source, sourceLast.mem, isSource⟩, target, targetLast.mem, isTarget⟩

theorem graph_edges_join_nodes_forked :
    ∃ built, graph forkedText = .ok built ∧
      built.edges = [⟨"a", "B", .error⟩, ⟨"a", "a", .error⟩] ∧
      ∀ edge ∈ built.edges, (∃ node ∈ built.nodes, node.id = edge.source) ∧
        ∃ node ∈ built.nodes, node.id = edge.target := by
  obtain ⟨_, _, built, _, _, succeeds, _, edges⟩ := graph_forkedText
  exact ⟨built, succeeds, edges, graph_edges_join_nodes succeeds⟩

/-! ## Ids -/

/-- A node has an id in the graph: the one that it declares, or its name when it declares none. -/
def HasId (node : Entries) (id : String) : Prop :=
  DeclaresId node id ∨ Value.lookupText "id" node = none ∧ HasName node id

/-- A node that declares no id has as its name the id of another node. -/
def TakesIdOf (node other : Entries) : Prop :=
  Value.lookupText "id" node = none ∧ ∃ name, HasName node name ∧ HasId other name

theorem hasId_describedNode {node : Entries} (isNode : IsNode node) :
    HasId node (describedNode node).id := by
  rcases isNode.id_cases with absent | ⟨id, declared, _⟩
  · obtain ⟨name, named, _⟩ := isNode.hasName
    rw [describedNode_id_of_absent absent named]
    exact .inr ⟨absent, named⟩
  · rw [describedNode_id_of_declared declared]
    exact .inl declared

private theorem HasId.describedNode_id {node : Entries} {id : String} (hasId : HasId node id) :
    (describedNode node).id = id := by
  rcases hasId with declared | ⟨absent, named⟩
  · exact describedNode_id_of_declared declared
  · exact describedNode_id_of_absent absent named

theorem TakesIdOf.describedNode_id_eq {node other : Entries} (takes : TakesIdOf node other) :
    (describedNode node).id = (describedNode other).id := by
  obtain ⟨absent, name, named, hasId⟩ := takes
  rw [describedNode_id_of_absent absent named, hasId.describedNode_id]

theorem takesIdOf_of_absent {node other : Entries} (isNode : IsNode node) (isOther : IsNode other)
    (absent : Value.lookupText "id" node = none)
    (same : (describedNode node).id = (describedNode other).id) : TakesIdOf node other := by
  obtain ⟨name, named, _⟩ := isNode.hasName
  rw [describedNode_id_of_absent absent named] at same
  exact ⟨absent, name, named, same ▸ hasId_describedNode isOther⟩

/-- Nodes that declare no common id have the same id only when one takes that of the other. -/
theorem describedNode_id_eq_iff {left right : Entries} (isLeft : IsNode left)
    (isRight : IsNode right) (distinct : ∀ id, ¬ (DeclaresId left id ∧ DeclaresId right id)) :
    (describedNode left).id = (describedNode right).id ↔
      TakesIdOf left right ∨ TakesIdOf right left := by
  constructor
  · intro same
    rcases isLeft.id_cases with absent | ⟨id, leftDeclares, _⟩
    · exact .inl (takesIdOf_of_absent isLeft isRight absent same)
    · rcases hasId_describedNode isRight with rightDeclares | ⟨absent, _⟩
      · rw [← same, describedNode_id_of_declared leftDeclares] at rightDeclares
        exact absurd ⟨leftDeclares, rightDeclares⟩ (distinct id)
      · exact .inr (takesIdOf_of_absent isRight isLeft absent same.symm)
  · intro takes
    rcases takes with leftTakes | rightTakes
    · exact leftTakes.describedNode_id_eq
    · exact rightTakes.describedNode_id_eq.symm

/-- The ids of a graph's nodes are distinct exactly when no node of the document takes the id of
another. -/
theorem graph_ids_nodup_iff {text : String} {built : Graph} (succeeds : graph text = .ok built) :
    ∃ document nodes connections, decode text.toList = .ok (.map document) ∧
      IsWorkflow document nodes connections ∧
      ((built.nodes.map (·.id)).Nodup ↔
        nodes.Pairwise fun left right => ¬ TakesIdOf left right ∧ ¬ TakesIdOf right left) := by
  obtain ⟨document, nodes, connections, decoded, workflow⟩ := isWorkflow_of_graph succeeds
  obtain ⟨edges, described, _⟩ := graph_of_workflow workflow decoded
  cases succeeds.symm.trans described
  refine ⟨document, nodes, connections, decoded, workflow, ?_⟩
  -- Two nodes at a time: the check has already kept apart those that both declare an id.
  rw [List.map_map, List.nodup_iff_pairwise_ne, List.pairwise_map,
    List.pairwise_iff_forall_sublist, List.pairwise_iff_forall_sublist]
  refine forall₂_congr fun left right => forall_congr' fun sublist => ?_
  have isLeft := workflow.eachNode left (sublist.mem (by simp))
  have isRight := workflow.eachNode right (sublist.mem (by simp))
  have distinct := List.pairwise_iff_forall_sublist.mp workflow.distinctIds sublist
  rw [← not_or, ← describedNode_id_eq_iff isLeft isRight distinct]
  rfl

/-- In the forked workflow one node declares no id, and its name is no other node's id. -/
theorem graph_ids_nodup_iff_forked :
    ∃ built document nodes connections, graph forkedText = .ok built ∧
      built.nodes.map (·.id) = ["a", "B"] ∧
      decode forkedText.toList = .ok (.map document) ∧ IsWorkflow document nodes connections ∧
      nodes.Pairwise fun left right => ¬ TakesIdOf left right ∧ ¬ TakesIdOf right left := by
  obtain ⟨_, _, built, _, _, succeeds, ids, _⟩ := graph_forkedText
  obtain ⟨document, nodes, connections, decoded, workflow, nodup_iff⟩ := graph_ids_nodup_iff succeeds
  have distinct : (built.nodes.map (·.id)).Nodup := by
    rw [ids]
    decide
  exact ⟨built, document, nodes, connections, succeeds, ids, decoded, workflow, nodup_iff.mp distinct⟩

/-- The name of a node without an id can be the id of another node: both have that id in the
graph. -/
theorem graph_ids_repeated :
    ∃ text built, graph text = .ok built ∧ ¬ (built.nodes.map (·.id)).Nodup := by
  obtain ⟨_, _, built, _, _, succeeds, ids⟩ :=
    @graph_ofList _ (Json.compact (workflowDocument
      [[("id", "x"), ("name", "A"), ("type", "t")], [("name", "x"), ("type", "t")]] []))
      (fun built => built.nodes.map (·.id)) ["x", "x"] (by decide +kernel)
  refine ⟨_, built, succeeds, ?_⟩
  rw [ids]
  decide

end WorkflowLint.Document
