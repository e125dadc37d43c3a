import Mathlib.Data.List.Nodup
import WorkflowLint.Proofs.ErrorCoverage
import WorkflowLint.Proofs.WorkflowGraph

/-!
Contract: missing error branches, by the links of the document.

A node that can fail has an error branch when a link under it stands in the error channel or in a
further output of the main channel, or refers to an error handler.  Main statement: where ids are
distinct, R12 reports exactly the nodes without such a link.  Links that refer to nothing do not
count: they make no edge, wherever they stand.
-/

set_option autoImplicit false

namespace WorkflowLint.Document

open Findings (Reports)
open Rules (catchesFailure unhandledErrorPath)
open Value (LinkAt reference)

/-- The link refers to a node that handles errors. -/
def LinkSite.RefersToHandler (nodes : List Node) (site : LinkSite) : Prop :=
  ∃ label, reference site.link = .str label ∧
    ∃ target ∈ nodes, Resolves nodes label target.id ∧
      isErrorHandler target.type target.name = true

/-- The link stands under the node with an id, and takes care of its failures. -/
def LinkSite.Catches (nodes : List Node) (id : String) (site : LinkSite) : Prop :=
  (∃ key, site.key = .str key ∧ Resolves nodes key id) ∧
    (site.channel = .str "error" ∨
      site.channel = .str "main" ∧ (∃ index, site.slot? = some (index + 1)) ∨
      site.RefersToHandler nodes)

section Links

variable {site : LinkSite} {edge : Edge}

private theorem IsEdgeOf.source_eq_iff {nodes : List Node} (isEdge : IsEdgeOf nodes site edge)
    {id : String} :
    edge.source = id ↔ ∃ key, site.key = .str key ∧ Resolves nodes key id := by
  obtain ⟨key, isKey, resolves⟩ := isEdge.source
  constructor
  · rintro rfl
    exact ⟨key, isKey, resolves⟩
  · rintro ⟨other, isOther, otherResolves⟩
    cases isKey.symm.trans isOther
    exact resolves.unique otherResolves

/-- Where ids are distinct, the node that an id stands for is the last one that has it. -/
theorem canFail_of_mem {nodes : List Node} (distinct : (nodes.map Node.id).Nodup) {node : Node}
    (listed : node ∈ nodes) (prone : isErrorProne node.type = true) : CanFail nodes node.id := by
  obtain ⟨last, isLast⟩ :=
    @exists_isLast Node (fun other => other.id = node.id) nodes node listed rfl
  have same : last = node := List.inj_on_of_nodup_map distinct isLast.mem listed isLast.holds
  exact ⟨last, isLast, same ▸ prone⟩

variable {graph : Graph} (distinct : (graph.nodes.map Node.id).Nodup)
  (isEdge : IsEdgeOf graph.nodes site edge)
include distinct isEdge

private theorem IsEdgeOf.handler_iff :
    (∃ target, graph.node? edge.target = some target ∧
      isErrorHandler target.type target.name = true) ↔ site.RefersToHandler graph.nodes := by
  obtain ⟨label, refers, resolves⟩ := isEdge.target
  constructor
  · rintro ⟨target, found, handles⟩
    obtain ⟨listed, isTarget⟩ := Graph.mem_of_node?_eq_some found
    exact ⟨label, refers, target, listed, isTarget ▸ resolves, handles⟩
  · rintro ⟨other, otherRefers, target, listed, otherResolves, handles⟩
    cases refers.symm.trans otherRefers
    have isTarget := otherResolves.unique resolves
    exact ⟨target, (Graph.node?_eq_some_iff distinct).mpr ⟨listed, isTarget⟩, handles⟩

/-- The edge of a link catches the failures of a node that can fail exactly when the link does. -/
theorem IsEdgeOf.catches_iff {node : Node} (listed : node ∈ graph.nodes)
    (prone : isErrorProne node.type = true) :
    edge.source = node.id ∧ catchesFailure graph edge = true ↔
      site.Catches graph.nodes node.id := by
  rw [LinkSite.Catches, ← isEdge.source_eq_iff]
  refine and_congr_right fun isSource => ?_
  have canFail : CanFail graph.nodes edge.source := isSource ▸ canFail_of_mem distinct listed prone
  have error_iff : edge.isError = true ↔ site.channel = .str "error" ∨
      site.channel = .str "main" ∧ ∃ index, site.slot? = some (index + 1) := by
    rw [Edge.isError, beq_iff_eq, isEdge.error_iff, LinkSite.OnFailure, and_iff_left canFail]
  rw [Rules.catchesFailure_iff, isEdge.handler_iff distinct, error_iff, or_assoc]

end Links

/-- R12 reports a node of a document exactly when no link of the document that refers to something
takes care of its failures. -/
theorem missing_branch_iff_no_link {text : String} {document : Value} {accepted : Accepted}
    {context : Context} (decoded : decode text.toList = .ok document)
    (passed : check Schema.workflow document = .ok accepted)
    (enabled : unhandledErrorPath.isEnabled context.config = true) :
    ∃ built connections, graph text = .ok built ∧
      built.nodes = accepted.nodes.map describedNode ∧
      Value.lookupText "connections" accepted.document = some (.map connections) ∧
      ((built.nodes.map Node.id).Nodup →
        ∃ missing, unhandledErrorPath.findings context built = .ok missing ∧
          ∀ node ∈ built.nodes, isErrorProne node.type = true →
            (Reports missing node.id ↔
              ¬ ∃ place site, StandsAt connections place site ∧
                (reference site.link).isEmpty = false ∧ site.Catches built.nodes node.id)) := by
  obtain ⟨rfl, connections, workflow⟩ := check_eq_ok_iff.mp passed
  obtain ⟨edges, succeeds, related⟩ := graph_of_workflow workflow decoded
  refine ⟨_, connections, succeeds, rfl, workflow.connectionsField, ?_⟩
  intro distinct
  obtain ⟨missing, found, missing_iff⟩ := @Rules.unhandledErrorPath_reports _ context enabled
  refine ⟨missing, found, ?_⟩
  intro node listed prone
  rw [missing_iff, and_iff_right ⟨node, listed, rfl, prone⟩]
  -- Links that refer to something and edges belong together one by one, in both directions.
  constructor
  · rintro uncaught ⟨place, site, stands, filled, catches⟩
    have isSite := mem_linkSites_iff.mpr ⟨stands, filled⟩
    obtain ⟨edge, isListed, isEdge⟩ := Sequence.exists_related_of_mem related.flip isSite
    have caught := (IsEdgeOf.catches_iff distinct isEdge listed prone).mpr catches
    exact uncaught edge isListed caught.1 caught.2
  · intro noLink edge isListed isSource catches
    obtain ⟨⟨place, site⟩, isSite, isEdge⟩ := Sequence.exists_related_of_mem related isListed
    obtain ⟨stands, filled⟩ := mem_linkSites_iff.mp isSite
    have caught := (IsEdgeOf.catches_iff distinct isEdge listed prone).mp ⟨isSource, catches⟩
    exact noLink ⟨place, site, stands, filled, caught⟩

/-- What a reader of a graph sees of its error branches: the nodes, and the ids that R12 reports. -/
def branchView (built : Graph) :
    List (String × Option String × String) × Option (List (Option String)) :=
  (built.nodes.map fun node => (node.id, node.name, node.type),
    (unhandledErrorPath.findings Rules.coverageContext built).toOption.map fun missing =>
      missing.map Finding.nodeId)

theorem findings_of_branchView {built : Graph} {nodes : List (String × Option String × String)}
    {ids : List (Option String)} (seen : branchView built = (nodes, some ids)) :
    built.nodes.map (fun node => (node.id, node.name, node.type)) = nodes ∧
      ∃ missing, unhandledErrorPath.findings Rules.coverageContext built = .ok missing ∧
        missing.map Finding.nodeId = ids := by
  obtain ⟨isNodes, isIds⟩ := Prod.mk.inj seen
  obtain ⟨missing, found, areIds⟩ := Option.map_eq_some_iff.mp isIds
  exact ⟨isNodes, missing, Sequence.toOption_eq_some_iff.mp found, areIds⟩

/-- Three calls: the first has no link but one that refers to nothing, the second one in its second
output, and the third one to a handler. -/
def callsDocument : Value :=
  workflowDocument
    [[("id", "a"), ("name", "A"), ("type", "http")], [("id", "b"), ("name", "B"), ("type", "http")],
      [("id", "c"), ("name", "C"), ("type", "http")],
      [("id", "h"), ("name", "Error Handler"), ("type", "set")]]
    [("A", .record [("error", .list [.list [.record [("node", .str "")]]])]),
      ("B", .record [("main", .list [.null, .list [.record [("node", .str "A")]]])]),
      ("C", .record [("main", .list [.list [.record [("node", .str "Error Handler")]]])])]

theorem missing_branch_iff_no_link_calls :
    ∃ text document accepted built connections,
      decode text.toList = .ok document ∧ check Schema.workflow document = .ok accepted ∧
      graph text = .ok built ∧
      built.nodes.map (fun node => (node.id, node.name, node.type)) =
        [("a", some "A", "http"), ("b", some "B", "http"), ("c", some "C", "http"),
          ("h", some "Error Handler", "set")] ∧
      Value.lookupText "connections" accepted.document = some (.map connections) ∧
      ∀ node ∈ built.nodes, isErrorProne node.type = true →
        (node.id = "a" ↔
          ¬ ∃ place site, StandsAt connections place site ∧
            (reference site.link).isEmpty = false ∧ site.Catches built.nodes node.id) := by
  obtain ⟨document, accepted, built, decoded, passed, succeeds, seen⟩ :=
    @graph_ofList _ (Json.compact callsDocument) branchView
      ([("a", some "A", "http"), ("b", some "B", "http"), ("c", some "C", "http"),
        ("h", some "Error Handler", "set")], some [some "a"]) (by decide +kernel)
  obtain ⟨nodes, missing, found, ids⟩ := findings_of_branchView seen
  obtain ⟨other, connections, otherSucceeds, _, areConnections, missing_iff⟩ :=
    @missing_branch_iff_no_link _ _ _ Rules.coverageContext decoded passed rfl
  cases succeeds.symm.trans otherSucceeds
  have distinct : (built.nodes.map Node.id).Nodup := by
    have areIds := congrArg (List.map Prod.fst) nodes
    rw [List.map_map] at areIds
    exact areIds ▸ (by decide : ["a", "b", "c", "h"].Nodup)
  obtain ⟨otherMissing, otherFound, reports_iff⟩ := missing_iff distinct
  cases found.symm.trans otherFound
  refine ⟨_, document, accepted, built, connections, decoded, passed, succeeds, nodes,
    areConnections, ?_⟩
  intro node listed prone
  rw [← reports_iff node listed prone, Findings.reports_iff_mem, ids]
  simp

/-- Channels whose only link stands in the error channel and refers to nothing. -/
def blankChannels : Value :=
  .record [("error", .list [.list [.record [("node", .str "")]]])]

def blankDocument : Value :=
  workflowDocument [[("id", "a"), ("name", "A"), ("type", "http")]] [("A", blankChannels)]

private theorem decode_blankDocument : decode (Json.compact blankDocument) = .ok blankDocument := by
  cbv

/-- A link in the error channel that refers to nothing does not count as an error branch. -/
theorem blank_error_link_reported :
    ∃ text document accepted built connections missing,
      decode text.toList = .ok document ∧ check Schema.workflow document = .ok accepted ∧
      graph text = .ok built ∧ (built.nodes.map Node.id).Nodup ∧
      Value.lookupText "connections" accepted.document = some (.map connections) ∧
      unhandledErrorPath.isEnabled Rules.coverageContext.config = true ∧
      unhandledErrorPath.findings Rules.coverageContext built = .ok missing ∧
      ∃ node ∈ built.nodes, isErrorProne node.type = true ∧ Reports missing node.id ∧
        ∃ place site, StandsAt connections place site ∧ site.Catches built.nodes node.id := by
  obtain ⟨document, accepted, built, decoded, passed, succeeds, seen⟩ :=
    @graph_ofList _ (Json.compact blankDocument) branchView
      ([("a", some "A", "http")], some [some "a"]) (by decide +kernel)
  obtain ⟨nodes, missing, found, ids⟩ := findings_of_branchView seen
  obtain ⟨node, areNodes, isNode⟩ := List.map_eq_singleton_iff.mp nodes
  obtain ⟨isId, isName, isType⟩ : node.id = "a" ∧ node.name = some "A" ∧ node.type = "http" := by
    simpa using isNode
  -- The connections are not in view of the graph, so they are read off the document.
  have isBlank : document = blankDocument := by
    rw [String.toList_ofList, decode_blankDocument] at decoded
    exact (Except.ok.inj decoded).symm
  obtain ⟨isDocument, _⟩ := check_eq_ok_iff.mp passed
  have sameEntries : Value.map _ = Value.map accepted.document := isBlank.symm.trans isDocument
  have areConnections : Value.lookupText "connections" accepted.document =
      some (.map [(.str "A", blankChannels)]) := by
    rw [← Value.map.inj sameEntries]
    rfl
  refine ⟨_, document, accepted, built, _, missing, decoded, passed, succeeds, by simp [areNodes],
    areConnections, rfl, found, node, by simp [areNodes], by rw [isType]; rfl, ?_, ?_⟩
  · rw [Findings.reports_iff_mem, ids, isId]
    simp
  · have resolves : Resolves built.nodes "A" node.id :=
      ⟨node, ⟨[], [], areNodes, .inr isName, by simp⟩, rfl⟩
    exact ⟨[0, 0, 0, 0], _, .intro rfl rfl (.inList rfl (.inList rfl (.here rfl))),
      ⟨"A", rfl, resolves⟩, .inl rfl⟩

end WorkflowLint.Document
