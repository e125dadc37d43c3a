import WorkflowLint.Lint.Basic
import WorkflowLint.Proofs.RemarkPlaces
import WorkflowLint.Proofs.RuleIndependence
import WorkflowLint.Proofs.WorkflowGraph
import Mathlib.Data.List.TakeWhile

/-!
Contract: what the findings of a workflow text say besides their messages.

Owns: the findings of a text rule by rule, each with its path, severity, node, line and explanation.
Main statement: `document_findings_placed`.
-/

set_option autoImplicit false

namespace WorkflowLint

open Sequence (gather)

/-! ## Findings by rule -/

namespace Sequence

variable {ε α β : Type}

/-- What is gathered is what the steps give, one after another. -/
theorem exists_parts_of_gather {step : α → Except ε (List β)} {items : List α} {all : List β}
    (succeeds : gather step items = .ok all) :
    ∃ own : α → List β, (∀ item ∈ items, step item = .ok (own item)) ∧ all = items.flatMap own := by
  let own (item : α) : List β := (step item).toOption.getD []
  have each : ∀ item ∈ items, step item = .ok (own item) := by
    intro item member
    obtain ⟨part, stepped⟩ := exists_ok_of_gather succeeds item member
    simp only [own, stepped]
    rfl
  refine ⟨own, each, ?_⟩
  obtain ⟨parts, mapped, flat⟩ := map_eq_ok_iff.mp succeeds
  rw [mapM_eq_ok_map each] at mapped
  rw [← flat, ← Except.ok.inj mapped, List.flatMap_def]

/-- When parts bear the labels of their items, and labels are distinct, the parts with the label of an
item are its own. -/
theorem filter_flatMap_of_label {items : List α} {label : α → String} {labelOf : β → String}
    {own : α → List β} (distinct : (items.map label).Nodup)
    (labelled : ∀ item ∈ items, ∀ part ∈ own item, labelOf part = label item) :
    ∀ item ∈ items, (items.flatMap own).filter (fun part => labelOf part = label item) = own item := by
  induction items with
  | nil => simp
  | cons head rest inductionHypothesis =>
      obtain ⟨headLabelled, restLabelled⟩ := List.forall_mem_cons.mp labelled
      obtain ⟨isNew, restDistinct⟩ := List.nodup_cons.mp distinct
      have differs : ∀ item ∈ rest, label item ≠ label head := by
        intro item member same
        exact isNew (same ▸ List.mem_map_of_mem member)
      -- The head and the items of the rest drop each other's parts.
      refine List.forall_mem_cons.mpr ⟨?_, ?_⟩
      · have kept : (own head).filter (fun part => labelOf part = label head) = own head :=
          List.filter_eq_self.mpr fun part member => by simp [headLabelled part member]
        have dropped : (rest.flatMap own).filter (fun part => labelOf part = label head) = [] := by
          rw [List.filter_eq_nil_iff]
          intro part member
          obtain ⟨item, listed, partOf⟩ := List.mem_flatMap.mp member
          simp [restLabelled item listed part partOf, differs item listed]
        rw [List.flatMap_cons, List.filter_append, kept, dropped, List.append_nil]
      · intro item listed
        have dropped : (own head).filter (fun part => labelOf part = label item) = [] := by
          rw [List.filter_eq_nil_iff]
          intro part member
          simp [headLabelled part member, (differs item listed).symm]
        rw [List.flatMap_cons, List.filter_append, dropped, List.nil_append]
        exact inductionHypothesis restDistinct restLabelled item listed

/-- Such parts stand one label after another. -/
theorem flatMap_filter_labels {items : List α} {label : α → String} {labelOf : β → String}
    {own : α → List β} (distinct : (items.map label).Nodup)
    (labelled : ∀ item ∈ items, ∀ part ∈ own item, labelOf part = label item) :
    ((items.map label).flatMap fun each =>
      (items.flatMap own).filter fun part => labelOf part = each) = items.flatMap own := by
  rw [List.flatMap_map]
  exact List.flatMap_congr (filter_flatMap_of_label distinct labelled)

end Sequence

/-- The findings that bear an id, in their order. -/
def Findings.only (id : String) (findings : List Finding) : List Finding :=
  findings.filter fun finding => finding.rule = id

/-! ## Findings of a text -/

namespace Lint

/-- A text up to the slashes at its end. -/
def IsTrimmed (text trimmed : String) : Prop :=
  trimmed.toList.getLast? ≠ some '/' ∧
    ∃ count, text.toList = trimmed.toList ++ List.replicate count '/'

private theorem isTrimmed_dropSlashes (text : String) : IsTrimmed text (dropSlashes text) := by
  unfold IsTrimmed dropSlashes
  rw [String.toList_ofList]
  constructor
  · intro isSlash
    rw [List.getLast?_reverse] at isSlash
    have notSlash := List.head?_dropWhile_not (fun character => character == '/') text.toList.reverse
    simp [isSlash] at notSlash
  · refine ⟨(text.toList.reverse.takeWhile (· == '/')).length, ?_⟩
    have onlySlashes : text.toList.reverse.takeWhile (· == '/') =
        List.replicate (text.toList.reverse.takeWhile (· == '/')).length '/' := by
      rw [List.eq_replicate_iff]
      refine ⟨rfl, fun character member => ?_⟩
      have isSlash := List.mem_takeWhile_imp member
      exact eq_of_beq isSlash
    rw [← List.reverse_replicate, ← onlySlashes, ← List.reverse_append,
      List.takeWhile_append_dropWhile, List.reverse_reverse]

/-- Where a rule is explained under a base without slashes at its end. -/
def documentationOf (base rule : String) : Option String :=
  if base = "" then none else some (base ++ "/" ++ rule)

/-- What a remark of a rule is in the result of a graph. -/
def published (setup : Setup) (path : String) (graph : Graph) (rule : Rule) (info : RuleInfo)
    (remark : Remark) : Finding :=
  { rule.found info.severity ⟨path, setup.config, graph.nodeLines⟩ remark with
    documentation := documentationOf (dropSlashes setup.documentationBase) rule.id }

private theorem explained_flatMap {α : Type} (base : String) (items : List α)
    (own : α → List Finding) :
    explained base (items.flatMap own) = items.flatMap fun item => explained base (own item) := by
  unfold explained
  split
  · rfl
  · exact List.map_flatMap

/-- The findings of a rule of the catalogue are explained under its id. -/
theorem explained_found {rule : Rule} {info : RuleInfo} (catalogued : RuleInfo.find? rule.id = some info)
    (setup : Setup) (path : String) (graph : Graph) (remarks : List Remark) :
    explained setup.documentationBase
        (remarks.map (rule.found info.severity ⟨path, setup.config, graph.nodeLines⟩)) =
      remarks.map (published setup path graph rule info) := by
  unfold explained
  split
  · rename_i isEmpty
    refine List.map_congr_left fun remark _ => ?_
    rw [published, documentationOf, if_pos (String.isEmpty_iff.mp isEmpty)]
    rfl
  · rename_i notEmpty
    rw [List.map_map]
    refine List.map_congr_left fun remark _ => ?_
    have isKnown : (RuleInfo.find? rule.id).isSome = true := by rw [catalogued]; rfl
    rw [published, documentationOf, if_neg fun isEmpty => notEmpty (String.isEmpty_iff.mpr isEmpty)]
    exact if_pos isKnown

/-- Findings for each rule, made of remarks at the places of the rule. -/
def AreMadeAtPlaces (setup : Setup) (path : String) (graph : Graph) (own : Rule → List Finding) : Prop :=
  ∀ rule ∈ Rules.builtin, ∃ (info : RuleInfo) (remarks : List Remark),
    RuleInfo.find? rule.id = some info ∧
    own rule = remarks.map (published setup path graph rule info) ∧
    (remarks.map Remark.nodeId).Sublist (Rules.places rule.id graph)

theorem document_of_graph {text : String} {built : Graph} (parsed : Document.graph text = .ok built)
    (setup : Setup) (path : String) : document setup path text = ofGraph setup path built := by
  unfold document
  rw [parsed]

private theorem ofGraph_findings {setup : Setup} {path : String} {graph : Graph} {result : Result}
    (returns : ofGraph setup path graph = .ok result) :
    ∃ findings, Rules.runAll ⟨path, setup.config, graph.nodeLines⟩ graph setup.further = .ok findings ∧
      result.findings = explained setup.documentationBase findings := by
  unfold ofGraph at returns
  split at returns
  · rename_i findings gathered
    cases returns
    refine ⟨findings, gathered, ?_⟩
    dsimp only
  · cases returns

private theorem exists_areMadeAtPlaces {setup : Setup} {path : String} {graph : Graph}
    {result : Result}
    (alone : setup.further = []) (returns : ofGraph setup path graph = .ok result) :
    ∃ own, result.findings = Rules.builtin.flatMap own ∧ AreMadeAtPlaces setup path graph own := by
  obtain ⟨findings, gathered, isExplained⟩ := ofGraph_findings returns
  rw [alone, Rules.runAll_eq_gather] at gathered
  obtain ⟨own, each, flat⟩ := Sequence.exists_parts_of_gather gathered
  rw [flat, explained_flatMap] at isExplained
  refine ⟨_, isExplained, fun rule listed => ?_⟩
  obtain ⟨info, remarks, catalogued, made, stand⟩ :=
    Rules.findings_of_builtin listed (each rule listed)
  rw [made, explained_found catalogued]
  exact ⟨info, remarks, catalogued, rfl, stand⟩

end Lint

namespace Document

private theorem nodeLines_of_graph {text : String} {built : Graph}
    (succeeds : graph text = .ok built) :
    built.nodeLines = graphLines text.toList built.nodes := by
  obtain ⟨document, nodes, connections, decoded, workflow⟩ := isWorkflow_of_graph succeeds
  obtain ⟨edges, described, _⟩ := graph_of_workflow workflow decoded
  cases succeeds.symm.trans described
  rfl

/-- The rules of a run find their places among the nodes of the graph of a text. -/
theorem exists_node_of_place {text : String} {built : Graph} (succeeds : graph text = .ok built)
    {rule id : String} (place : id ∈ Rules.places rule built) :
    ∃ node ∈ built.nodes, node.id = id := by
  unfold Rules.places at place
  split at place
  · obtain ⟨node, listed, isId⟩ := List.mem_flatMap.mp place
    rw [List.mem_pair, or_self] at isId
    exact ⟨node, listed, isId.symm⟩
  · split at place
    · -- An error edge starts at a node, as every edge does.
      obtain ⟨edge, isError, isSource⟩ := List.mem_map.mp place
      obtain ⟨document, nodes, connections, decoded, workflow⟩ := isWorkflow_of_graph succeeds
      obtain ⟨edges, described, related⟩ := graph_of_workflow workflow decoded
      cases succeeds.symm.trans described
      obtain ⟨found, _, isEdge⟩ :=
        Sequence.exists_related_of_mem related (List.mem_of_mem_filter isError)
      obtain ⟨_, _, source, sourceLast, sourceId⟩ := isEdge.source
      exact ⟨source, sourceLast.mem, sourceId.trans isSource⟩
    · exact List.mem_map.mp place

end Document

/-! ## The statement -/

/-- The rules in the order in which they run. -/
def Rules.order : List String :=
  ["R1", "R2", "R3", "R4", "R5", "R6", "R7", "R8", "R9", "R10", "R11", "R12", "R13", "R14"]

/-- The fields of a finding, its message apart, are those of a finding on a node of the graph of a text,
with explanations under a base. -/
structure Finding.IsPlaced (finding : Finding) (path text base : String) (built : Graph) : Prop where
  path_eq : finding.path = path
  severity_eq : ∃ info, RuleInfo.find? finding.rule = some info ∧ finding.severity = info.severity
  node : ∃ node ∈ built.nodes, finding.nodeId = some node.id ∧
    finding.line = (Document.graphLines text.toList built.nodes).lookup node.id
  documentation_eq : finding.documentation = Lint.documentationOf base finding.rule

namespace Lint

section Text

variable {setup : Setup} {path text : String} {built : Graph} {own : Rule → List Finding}
  (parsed : Document.graph text = .ok built) (each : AreMadeAtPlaces setup path built own)

include each

theorem rule_of_mem_own : ∀ rule ∈ Rules.builtin, ∀ finding ∈ own rule, finding.rule = rule.id := by
  intro rule listed finding member
  obtain ⟨info, remarks, _, made, _⟩ := each rule listed
  rw [made] at member
  obtain ⟨remark, _, rfl⟩ := List.mem_map.mp member
  rfl

private theorem only_eq_own : ∀ rule ∈ Rules.builtin,
    Findings.only rule.id (Rules.builtin.flatMap own) = own rule :=
  Sequence.filter_flatMap_of_label Rules.builtin_ids_nodup (rule_of_mem_own each)

theorem only_sublist {id : String} (isRule : id ∈ Rules.order) :
    ((Findings.only id (Rules.builtin.flatMap own)).map Finding.nodeId).Sublist
      ((Rules.places id built).map some) := by
  obtain ⟨rule, listed, rfl⟩ : ∃ rule ∈ Rules.builtin, rule.id = id := List.mem_map.mp isRule
  obtain ⟨info, remarks, _, made, stand⟩ := each rule listed
  have ids : (own rule).map Finding.nodeId = (remarks.map Remark.nodeId).map some := by
    rw [made, List.map_map, List.map_map]
    rfl
  rw [only_eq_own each rule listed, ids]
  exact stand.map some

include parsed

private theorem isPlaced_of_mem_own : ∀ rule ∈ Rules.builtin, ∀ finding ∈ own rule,
    finding.IsPlaced path text (dropSlashes setup.documentationBase) built := by
  intro rule listed finding member
  obtain ⟨info, remarks, catalogued, made, stand⟩ := each rule listed
  rw [made] at member
  obtain ⟨remark, remarked, rfl⟩ := List.mem_map.mp member
  have place : remark.nodeId ∈ Rules.places rule.id built :=
    stand.subset (List.mem_map_of_mem remarked)
  obtain ⟨node, isNode, isId⟩ := Document.exists_node_of_place parsed place
  have lines := Document.nodeLines_of_graph parsed
  constructor
  case path_eq => dsimp only [published, Rule.found]
  case severity_eq => exact ⟨info, catalogued, by dsimp only [published, Rule.found]⟩
  case node =>
    refine ⟨node, isNode, ?_, ?_⟩
    · dsimp only [published, Rule.found]
      rw [isId]
    · dsimp only [published, Rule.found]
      rw [isId, lines]
  case documentation_eq => dsimp only [published, Rule.found]

end Text

/-- The findings of a text with a graph stand rule by rule.  Each has the path, the severity of its rule
in the catalogue, a node of the graph with its line, and where its rule is explained.  The nodes of the
findings of one rule stand in their order in the text, each at most once; for long loops each at most
twice, and for error branches they are sources of error edges. -/
theorem document_findings_placed {setup : Setup} {path text : String} {built : Graph} {result : Result}
    (alone : setup.further = []) (parsed : Document.graph text = .ok built)
    (returns : document setup path text = .ok result) :
    (Rules.order.flatMap fun id => Findings.only id result.findings) = result.findings ∧
    (∃ base, IsTrimmed setup.documentationBase base ∧
      ∀ finding ∈ result.findings, finding.IsPlaced path text base built) ∧
    (∀ id ∈ Rules.order, id ≠ "R6" → id ≠ "R7" →
      ((Findings.only id result.findings).map Finding.nodeId).Sublist
        (built.nodes.map fun node => some node.id)) ∧
    ((Findings.only "R6" result.findings).map Finding.nodeId).Sublist
      (built.nodes.flatMap fun node => [some node.id, some node.id]) ∧
    ((Findings.only "R7" result.findings).map Finding.nodeId).Sublist
      ((built.edges.filter Edge.isError).map fun edge => some edge.source) := by
  rw [document_of_graph parsed] at returns
  obtain ⟨own, findings, each⟩ := exists_areMadeAtPlaces alone returns
  rw [findings]
  refine ⟨?_, ⟨dropSlashes setup.documentationBase, isTrimmed_dropSlashes _, ?_⟩, ?_, ?_, ?_⟩
  · exact Sequence.flatMap_filter_labels Rules.builtin_ids_nodup (rule_of_mem_own each)
  · intro finding member
    obtain ⟨rule, listed, isOwn⟩ := List.mem_flatMap.mp member
    exact isPlaced_of_mem_own parsed each rule listed finding isOwn
  · intro id isRule notR6 notR7
    have stand := only_sublist each isRule
    rw [Rules.places, if_neg notR6, if_neg notR7, List.map_map] at stand
    exact stand
  · have stand := only_sublist each (show "R6" ∈ Rules.order by decide)
    rw [Rules.places, if_pos rfl, List.map_flatMap] at stand
    exact stand
  · have stand := only_sublist each (show "R7" ∈ Rules.order by decide)
    rw [Rules.places, if_neg (by decide), if_pos rfl, List.map_map] at stand
    exact stand

/-- A loop that turns too often and waits too long, with an error branch that nothing handles. -/
def failingLoop : List Char :=
  Json.compact (.record
    [("nodes", .list
      [.record [("id", .str "b"), ("name", .str "Set"), ("type", .str "set")],
        .record [("id", .str "a"), ("name", .str "Turn"), ("type", .str "n8n-nodes-base.loop"),
          ("parameters", .record [("maxIterations", .int 5000), ("timeout", .int 9000000)])]]),
      ("connections", .record
        [("Turn", .record [("error", .list [.list [.record [("node", .str "Set")]]])])])])

def explainedSetup : Setup where
  config :=
    { rules := { deadEnds := some ⟨true⟩
                 longRunning := some ⟨true, some 1000, some 300000⟩
                 alertLogEnforcement := some ⟨true⟩ } }
  documentationBase := "rules//"

theorem ofGraph_failingLoop :
    ∃ built result, Document.graph (String.ofList failingLoop) = .ok built ∧
      ofGraph explainedSetup "flow.json" built = .ok result ∧
      result.findings.map (fun finding => (finding.rule, finding.severity, finding.nodeId)) =
        [("R5", .should, some "b"), ("R6", .should, some "a"), ("R6", .should, some "a"),
          ("R7", .should, some "a")] := by
  obtain ⟨_, _, built, _, _, parsed, seen⟩ :=
    @Document.graph_ofList _ failingLoop
      (fun built => (ofGraph explainedSetup "flow.json" built).toOption.map
        fun result => result.findings.map fun finding =>
          (finding.rule, finding.severity, finding.nodeId))
      (some [("R5", .should, some "b"), ("R6", .should, some "a"), ("R6", .should, some "a"),
        ("R7", .should, some "a")])
      (by decide +kernel)
  obtain ⟨result, returned, listed⟩ := Option.map_eq_some_iff.mp seen
  exact ⟨built, result, parsed, Sequence.toOption_eq_some_iff.mp returned, listed⟩

theorem document_findings_placed_failingLoop :
    ∃ built result, Document.graph (String.ofList failingLoop) = .ok built ∧
      document explainedSetup "flow.json" (String.ofList failingLoop) = .ok result ∧
      result.findings.map (fun finding => (finding.rule, finding.severity, finding.nodeId)) =
        [("R5", .should, some "b"), ("R6", .should, some "a"), ("R6", .should, some "a"),
          ("R7", .should, some "a")] ∧
      (Rules.order.flatMap fun id => Findings.only id result.findings) = result.findings ∧
      ∃ base, IsTrimmed explainedSetup.documentationBase base ∧
        ∀ finding ∈ result.findings,
          finding.IsPlaced "flow.json" (String.ofList failingLoop) base built := by
  obtain ⟨built, result, parsed, returned, listed⟩ := ofGraph_failingLoop
  have returns := (document_of_graph parsed explainedSetup "flow.json").trans returned
  obtain ⟨grouped, placed, _⟩ := document_findings_placed rfl parsed returns
  exact ⟨built, result, parsed, returns, listed, grouped, placed⟩

end Lint

end WorkflowLint
