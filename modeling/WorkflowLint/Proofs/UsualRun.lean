import WorkflowLint.Proofs.DocumentVerdict
import WorkflowLint.Proofs.MutationGuards
import WorkflowLint.Proofs.ParameterNumbers
import WorkflowLint.Proofs.RuleEvaluation

/-!
Contract: how a run under the usual configuration ends on a JSON document.

All denylists of the usual configuration are patterns, and what the nodes of a document have from it
(`PassesOn`) lets every node of a JSON document be written as JSON.  So thirteen rules return whatever the
parameters hold.  The rule on long loops converts integers to doubles.  Main statement: `usual_run_of_json`, that the run returns findings unless a loop
counts past the doubles, and stops with that one fault if one does.
-/

set_option autoImplicit false

namespace WorkflowLint

/-! ## Gathering -/

namespace Sequence

variable {ε α β : Type}

theorem FailsOnly.gather {allowed : ε → Prop} {step : α → Except ε (List β)} {items : List α}
    (each : ∀ item ∈ items, FailsOnly allowed (step item)) :
    FailsOnly allowed (gather step items) :=
  (FailsOnly.mapM each).map List.flatten

end Sequence

/-! ## Nodes of JSON documents -/

namespace Document

private theorem eq_map_of_entries {value : Value} {entries : Entries}
    (isMap : value.entries? = some entries) : value = .map entries := by
  cases value with
  | map inner =>
      cases isMap
      rfl
  | _ => cases isMap

/-- A property that the parts of a value have from it, and that records have from their fields. -/
structure PassesOn (holds : Value → Prop) : Prop where
  null : holds .null
  str : ∀ text, holds (.str text)
  item : ∀ {items}, holds (.list items) → ∀ item ∈ items, holds item
  value : ∀ {entries}, holds (.map entries) → ∀ entry ∈ entries, holds entry.2
  record : ∀ {fields : List (String × Value)}, (∀ field ∈ fields, holds field.2) →
    holds (.record fields)

namespace PassesOn

variable {holds : Value → Prop} (passesOn : PassesOn holds)
include passesOn

theorem lookupText {entries : Entries} (whole : holds (.map entries)) {name : String} {value : Value}
    (found : Value.lookupText name entries = some value) : holds value := by
  obtain ⟨key, listed⟩ := Value.exists_mem_of_lookupText found
  exact passesOn.value whole (key, value) listed

theorem field {entries : Entries} (whole : holds (.map entries)) (name : String) :
    holds (Value.field name entries) := by
  rw [Value.field]
  cases found : Value.lookupText name entries with
  | none => exact passesOn.null
  | some value => exact passesOn.lookupText whole found

theorem fieldOf {value : Value} (whole : holds value) (name : String) : holds (value.fieldOf name) := by
  cases value with
  | map entries => exact passesOn.field whole name
  | _ => exact passesOn.null

theorem firstGiven {values : List Value} (each : ∀ value ∈ values, holds value) :
    holds (firstGiven values) := by
  rw [Document.firstGiven]
  cases found : values.find? (!·.isNull) with
  | none => exact passesOn.null
  | some value => exact each value (List.mem_of_find?_eq_some found)

theorem flagsOf {fields : Entries} (whole : holds (.map fields)) {flags : Flags}
    (given : flagsOf fields = some flags) : ∀ field ∈ flags.fields, holds field.2 := by
  have pick : ∀ name, holds (Document.firstGiven [Value.field name fields,
      (Value.field "settings" fields).fieldOf name]) := by
    intro name
    apply passesOn.firstGiven
    rw [List.forall_mem_cons, List.forall_mem_singleton]
    exact ⟨passesOn.field whole name, passesOn.fieldOf (passesOn.field whole "settings") name⟩
  unfold Document.flagsOf at given
  dsimp only at given
  split at given
  · cases given
  · cases given
    intro field member
    have listed := List.mem_of_mem_filter member
    simp only [List.mem_cons, List.not_mem_nil, or_false] at listed
    rcases listed with rfl | rfl | rfl | rfl
    · exact passesOn.field whole _
    · exact pick _
    · exact pick _
    · exact pick _

/-- The node that fields describe, written as a record, has the property from the fields. -/
theorem describedNode {fields : Entries} (whole : holds (.map fields)) :
    holds (describedNode fields).toValue := by
  have given (name : String) : ∀ entries ∈ (Value.field name fields).entries?, holds (.map entries) :=
    fun entries isMap => eq_map_of_entries isMap ▸ passesOn.field whole name
  refine passesOn.record ?_
  simp only [Node.fields, List.forall_mem_append, List.forall_mem_cons, List.not_mem_nil,
    false_implies, implies_true, and_true, Value.forall_mem_optionalField]
  exact ⟨⟨⟨⟨⟨passesOn.str _, passesOn.str _⟩, fun _ _ => passesOn.str _⟩, given "parameters"⟩,
    given "credentials"⟩, fun _ flagged => passesOn.record (passesOn.flagsOf whole flagged)⟩

end PassesOn

/-- The nodes of the graph of a JSON text, written as records, have from the text what is passed on. -/
theorem holds_of_mem_nodes {holds : Value → Prop} (passesOn : PassesOn holds) {text : String}
    {document : Value} {built : Graph} (decoded : Json.decode text.toList = .ok document)
    (whole : holds document) (succeeds : graph text = .ok built) :
    ∀ node ∈ built.nodes, holds node.toValue := by
  obtain ⟨entries, nodes, connections, isDocument, workflow⟩ := isWorkflow_of_graph succeeds
  cases isDocument.symm.trans (decode_of_json decoded)
  obtain ⟨edges, described, _⟩ := graph_of_workflow workflow isDocument
  cases succeeds.symm.trans described
  have eachNode := passesOn.item (passesOn.lookupText whole workflow.nodesField)
  rw [List.forall_mem_map] at eachNode ⊢
  exact fun fields listed => passesOn.describedNode (eachNode fields listed)

private theorem isJson_of_mem_nodes {text : String} {document : Value} {built : Graph}
    (decoded : Json.decode text.toList = .ok document) (succeeds : graph text = .ok built) :
    ∀ node ∈ built.nodes, node.toValue.IsJson := by
  have passesOn : PassesOn Value.IsJson :=
    { null := .null
      str := .str
      item := fun isJson => by cases isJson with | list each => exact each
      value := fun isJson => (Value.isJson_map_iff.mp isJson).values
      record := Value.isJson_record }
  exact holds_of_mem_nodes passesOn decoded (Json.isJson_of_decode decoded) succeeds

private theorem isSpellable_of_mem_nodes {text : String} {document : Value} {built : Graph}
    (decoded : Json.decode text.toList = .ok document) (succeeds : graph text = .ok built) :
    ∀ node ∈ built.nodes, node.toValue.isSpellable = true := by
  have passesOn : PassesOn (·.isSpellable = true) :=
    { null := rfl
      str := fun _ => rfl
      item := Value.areSpellable_iff.mp
      value := fun spellable entry listed => (Value.areSpellableEntries_iff.mp spellable entry listed).2
      record := fun each => Value.areSpellableEntries_iff.mpr
        (List.forall_mem_map.mpr fun field listed => ⟨rfl, each field listed⟩) }
  exact holds_of_mem_nodes passesOn decoded (Value.isSpellable_of_decode decoded) succeeds

end Document

/-! ## Rules under the usual configuration -/

namespace Rules

open Sequence (gather exists_gather_iff FailsOnly failsOnly_ok failsOnly_error)

/-- A loop whose number of iterations, or whose timeout, is an integer past the doubles. -/
def CountsPastDoubles (node : Node) : Prop :=
  isLoop node.type = true ∧
    (node.paramsValue.Overflows iterationPaths ∨ node.paramsValue.Overflows timeoutPaths)

instance (node : Node) : Decidable (CountsPastDoubles node) :=
  inferInstanceAs (Decidable (_ ∧ _))

/-- The fault of an integer past the doubles. -/
def IsOverflow (fault : RuleFault) : Prop := fault = .number .integerTooLarge

section Loops

variable {node : Node} {paths : List String}

theorem exists_readParam_iff :
    (∃ number, readParam node paths = .ok number) ↔ ¬ node.paramsValue.Overflows paths := by
  rw [← Value.exists_numberAt_iff, readParam]
  cases node.paramsValue.numberAt paths <;> simp

theorem readParam_failsOnly (node : Node) (paths : List String) :
    FailsOnly IsOverflow (readParam node paths) := by
  unfold readParam
  split
  · exact failsOnly_ok _
  next fault _ =>
    cases fault
    exact failsOnly_error rfl

theorem exists_limitRemarks {limit : Int} (spelled : (limitText (some limit)).toOption.isSome = true)
    (passed : Bool) (remark : String → Remark) :
    ∃ own, limitRemarks passed (some limit) remark = .ok own := by
  obtain ⟨shown, isSome⟩ := Option.isSome_iff_exists.mp spelled
  rw [limitRemarks, Sequence.toOption_eq_some_iff.mp isSome]
  split
  · exact ⟨_, rfl⟩
  · exact ⟨[], rfl⟩

private theorem exists_iterationRemarks_iff {limit : Int}
    (spelled : (limitText (some limit)).toOption.isSome = true) :
    (∃ own, iterationRemarks (some limit) node = .ok own) ↔
      ¬ node.paramsValue.Overflows iterationPaths := by
  rw [← exists_readParam_iff]
  simp only [iterationRemarks, Sequence.bind_eq_ok_iff]
  constructor
  · rintro ⟨_, number, read, _⟩
    exact ⟨number, read⟩
  · rintro ⟨number, read⟩
    obtain ⟨own, made⟩ := exists_limitRemarks spelled (iteratesLong (some limit) number)
      (manyIterations node number)
    exact ⟨own, number, read, made⟩

private theorem exists_timeoutRemarks_iff {limit : Int}
    (spelled : (limitText (some limit)).toOption.isSome = true)
    (given : limit ≠ 0) :
    (∃ own, timeoutRemarks (some limit) node = .ok own) ↔
      ¬ node.paramsValue.Overflows timeoutPaths := by
  rw [← exists_readParam_iff, timeoutRemarks, if_neg (by simpa using given)]
  simp only [Sequence.bind_eq_ok_iff]
  constructor
  · rintro ⟨_, number, read, _⟩
    exact ⟨number, read⟩
  · rintro ⟨number, read⟩
    cases number with
    | none => exact ⟨_, none, read, rfl⟩
    | some timeout =>
        obtain ⟨own, made⟩ := exists_limitRemarks spelled (waitsLong (some limit) timeout)
          (longTimeout node timeout)
        exact ⟨own, some timeout, read, made⟩

/-- Under limits that can be written, the remarks on a loop are made unless it counts past the
doubles. -/
theorem exists_loopRemarks_iff {enabled : Bool} {iterations timeout : Int}
    (iterationsSpelled : (limitText (some iterations)).toOption.isSome = true)
    (timeoutSpelled : (limitText (some timeout)).toOption.isSome = true) (given : timeout ≠ 0) :
    (∃ own, loopRemarks ⟨enabled, some iterations, some timeout⟩ node = .ok own) ↔
      ¬ (node.paramsValue.Overflows iterationPaths ∨ node.paramsValue.Overflows timeoutPaths) := by
  rw [not_or, ← exists_iterationRemarks_iff iterationsSpelled,
    ← exists_timeoutRemarks_iff timeoutSpelled given]
  simp only [loopRemarks, Sequence.bind_eq_ok_iff]
  constructor
  · rintro ⟨_, first, firstMade, second, secondMade, _⟩
    exact ⟨⟨first, firstMade⟩, second, secondMade⟩
  · rintro ⟨⟨first, firstMade⟩, second, secondMade⟩
    exact ⟨_, first, firstMade, second, secondMade, rfl⟩

private theorem loopRemarks_failsOnly {enabled : Bool} {iterations timeout : Int}
    (iterationsSpelled : (limitText (some iterations)).toOption.isSome = true)
    (timeoutSpelled : (limitText (some timeout)).toOption.isSome = true) (node : Node) :
    FailsOnly IsOverflow (loopRemarks ⟨enabled, some iterations, some timeout⟩ node) := by
  have limited {limit : Int} (spelled : (limitText (some limit)).toOption.isSome = true) (passed : Bool)
      (remark : String → Remark) : FailsOnly IsOverflow (limitRemarks passed (some limit) remark) := by
    obtain ⟨own, made⟩ := exists_limitRemarks spelled passed remark
    exact made ▸ failsOnly_ok own
  refine FailsOnly.bind ?_ fun _ _ => FailsOnly.bind ?_ fun _ _ => failsOnly_ok _
  · exact (readParam_failsOnly node _).bind fun _ _ => limited iterationsSpelled _ _
  · unfold timeoutRemarks
    split
    · exact failsOnly_ok _
    · refine (readParam_failsOnly node _).bind fun number _ => ?_
      cases number with
      | none => exact failsOnly_ok _
      | some timeout => exact limited timeoutSpelled _ _

end Loops

theorem usual_longRunning :
    Config.usual.rules.longRunning = some ⟨true, some 1000, some 300000⟩ := by decide +kernel

/-- The rule on long loops returns unless a loop counts past the doubles. -/
theorem exists_longRunning_iff (graph : Graph) :
    (∃ remarks, longRunning.remarks Config.usual graph = .ok remarks) ↔
      ∀ node ∈ graph.nodes, ¬ CountsPastDoubles node := by
  refine Iff.trans exists_gather_iff (forall₂_congr fun node _ => ?_)
  simp only [usual_longRunning, CountsPastDoubles]
  by_cases loops : isLoop node.type = true
  · simp only [loops, ↓reduceIte, true_and]
    exact exists_loopRemarks_iff (by decide +kernel) (by decide +kernel) (by decide)
  · simp [loops]

private theorem longRunning_failsOnly (graph : Graph) :
    FailsOnly IsOverflow (longRunning.remarks Config.usual graph) := by
  refine FailsOnly.gather fun node _ => ?_
  simp only [usual_longRunning]
  split
  · exact loopRemarks_failsOnly (by decide +kernel) (by decide +kernel) node
  · exact failsOnly_ok _

/-- A rule with a denylist returns when its entries are patterns. -/
theorem exists_denylist_remarks {id key : String} {severity? : Option Severity}
    {message : Node → String → String} {details : String} {config : Config}
    (compile : (Rule.patternsOf (Rule.denylistAt key config)).toOption.isSome = true)
    (graph : Graph) :
    ∃ remarks, (Rule.denylist id key severity? message details).remarks config graph =
      .ok remarks := by
  obtain ⟨patterns, isSome⟩ := Option.isSome_iff_exists.mp compile
  have compiled := Sequence.toOption_eq_some_iff.mp isSome
  refine exists_gather_iff.mpr fun node _ => ?_
  simp only [Rule.denylistRemarks, compiled]
  exact ⟨_, rfl⟩

/-- The nodes are JSON, and their integers have few enough digits to be written. -/
structure AreWritable (graph : Graph) : Prop where
  isJson : ∀ node ∈ graph.nodes, node.toValue.IsJson
  spellable : ∀ node ∈ graph.nodes, node.toValue.isSpellable = true

theorem areWritable_of_decode {text : String} {document : Value} {built : Graph}
    (decoded : Json.decode text.toList = .ok document) (succeeds : Document.graph text = .ok built) :
    AreWritable built :=
  ⟨Document.isJson_of_mem_nodes decoded succeeds, Document.isSpellable_of_mem_nodes decoded succeeds⟩

theorem AreWritable.keysSpellable {graph : Graph} (writable : AreWritable graph) :
    KeysSpellable graph := by
  intro node listed
  refine Value.keysSpellable_of_isSpellable ?_
  have each := Value.areSpellableEntries_iff.mp (writable.spellable node listed)
  rw [List.forall_mem_map] at each
  unfold Node.paramsValue
  split
  next entries given =>
    have isField : ("params", Value.map entries) ∈ node.fields := by
      simp [Node.fields, Value.optionalField, given]
    exact (each _ isField).2
  next => rfl

private theorem exists_retryAfter_remarks {config : Config} {graph : Graph}
    (writable : AreWritable graph) :
    ∃ remarks, retryAfterCompliance.remarks config graph = .ok remarks := by
  refine exists_gather_iff.mpr fun node listed => ?_
  dsimp only
  split
  · rw [namesRetryAfter_of_isJson (writable.isJson node listed) (writable.spellable node listed)]
    exact ⟨_, rfl⟩
  · exact ⟨[], rfl⟩

/-- All rules but the one on long loops return. -/
theorem exists_remarks_of_usual {graph : Graph} (writable : AreWritable graph) :
    ∀ rule ∈ builtin, rule = longRunning ∨
      ∃ remarks, rule.remarks Config.usual graph = .ok remarks := by
  have total {rule : Rule} {check : Node → List Remark}
      (remarks : rule.remarks Config.usual graph = gather (fun node => .ok (check node)) graph.nodes) :
      ∃ remarks, rule.remarks Config.usual graph = .ok remarks := by
    rw [remarks]
    exact exists_gather_iff.mpr fun node _ => ⟨check node, rfl⟩
  simp only [builtin, List.forall_mem_cons, List.not_mem_nil, false_implies, implies_true, and_true]
  -- Only denylists, which compile patterns, and the searches of nodes, which write them, could fail.
  refine ⟨.inr (total rfl), .inr (total rfl),
    .inr (exists_idempotency_remarks writable.keysSpellable),
    .inr (exists_denylist_remarks (by decide +kernel) graph), .inr ?_, .inl trivial, .inr ⟨_, rfl⟩,
    .inr ⟨_, rfl⟩, .inr (exists_denylist_remarks (by decide +kernel) graph), .inr (total rfl),
    .inr (total rfl), .inr (total rfl), .inr ⟨_, rfl⟩, .inr (exists_retryAfter_remarks writable)⟩
  simp only [deadEnds]
  split <;> exact ⟨_, rfl⟩

/-! ## The run -/

section Run

variable {path : String} {lines : List (String × Int)} {graph : Graph}

theorem exists_findings {rule : Rule} (listed : rule ∈ builtin)
    (returns : ∃ remarks, rule.remarks Config.usual graph = .ok remarks) :
    ∃ found, rule.findings ⟨path, Config.usual, lines⟩ graph = .ok found := by
  obtain ⟨info, _, known⟩ := Rule.info_of_builtin listed
  obtain ⟨remarks, remarked⟩ := returns
  rw [Rule.findings_eq known]
  split
  · exact ⟨_, Sequence.map_eq_ok_iff.mpr ⟨remarks, remarked, rfl⟩⟩
  · exact ⟨[], rfl⟩

private theorem longRunning_listed : longRunning ∈ builtin := by simp [builtin]

theorem longRunning_findings (context : Context) :
    longRunning.findings context graph =
      if longRunning.isEnabled context.config then
        List.map (longRunning.found .should context) <$> longRunning.remarks context.config graph
      else .ok [] :=
  Rule.findings_eq rfl context graph

/-- The run returns exactly when no loop counts past the doubles. -/
theorem exists_runAll_iff (writable : AreWritable graph) :
    (∃ found, runAll ⟨path, Config.usual, lines⟩ graph [] = .ok found) ↔
      ∀ node ∈ graph.nodes, ¬ CountsPastDoubles node := by
  rw [runAll_eq_gather, exists_gather_iff, ← exists_longRunning_iff]
  constructor
  · intro each
    have enabled : longRunning.isEnabled Config.usual = true := by decide +kernel
    obtain ⟨found, succeeds⟩ := each longRunning longRunning_listed
    rw [longRunning_findings, if_pos enabled] at succeeds
    obtain ⟨remarks, remarked, _⟩ := Sequence.map_eq_ok_iff.mp succeeds
    exact ⟨remarks, remarked⟩
  · intro loopsReturn rule listed
    rcases exists_remarks_of_usual writable rule listed with rfl | returns
    · exact exists_findings listed loopsReturn
    · exact exists_findings listed returns

private theorem runAll_failsOnly (writable : AreWritable graph) :
    FailsOnly IsOverflow (runAll ⟨path, Config.usual, lines⟩ graph []) := by
  rw [runAll_eq_gather]
  refine FailsOnly.gather fun rule listed => ?_
  rcases exists_remarks_of_usual writable rule listed with rfl | returns
  · rw [longRunning_findings]
    split
    · exact (longRunning_failsOnly graph).map _
    · exact failsOnly_ok _
  · obtain ⟨found, succeeds⟩ := @exists_findings path lines graph rule listed returns
    rw [succeeds]
    exact failsOnly_ok found

end Run

/-- Under the usual configuration a run over the graph of a JSON text returns findings, or it stops
with the fault of an integer past the doubles.  It stops exactly when some loop counts past them.  A text
that is nested past `nestingLimit` is declined, so it has no document here. -/
theorem usual_run_of_json {text path : String} {document : Value} {built : Graph}
    {lines : List (String × Int)} (decoded : Json.decode text.toList = .ok document)
    (succeeds : Document.graph text = .ok built) :
    ((∃ found, runAll ⟨path, Config.usual, lines⟩ built [] = .ok found) ∧
      ∀ node ∈ built.nodes, ¬ CountsPastDoubles node) ∨
    runAll ⟨path, Config.usual, lines⟩ built [] = .error (.number .integerTooLarge) ∧
      ∃ node ∈ built.nodes, CountsPastDoubles node := by
  have writable := areWritable_of_decode decoded succeeds
  have returns_iff := @exists_runAll_iff path lines built writable
  rcases (@runAll_failsOnly path lines built writable).cases with returns | ⟨_, stops, rfl⟩
  · exact .inl ⟨returns, returns_iff.mp returns⟩
  · refine .inr ⟨stops, ?_⟩
    by_contra none
    obtain ⟨found, returns⟩ := returns_iff.mpr fun node listed counts => none ⟨node, listed, counts⟩
    rw [stops] at returns
    cases returns

/-- A loop of ten turns with a timeout, alone in its workflow. -/
def loopText (timeout : Value) : List Char :=
  Json.compact (.record
    [("nodes", .list [.record
      [("id", .str "a"), ("name", .str "Turn"), ("type", .str "n8n-nodes-base.loop"),
        ("parameters", .record [("maxIterations", .int 10), ("timeout", timeout)])]]),
      ("connections", .record [])])

/-- A text that spells a number past the doubles is no number, and the run returns. -/
theorem usual_run_of_json_text :
    ∃ document built found,
      Json.decode (String.ofList (loopText (.str "1e999"))).toList = .ok document ∧
      Document.graph (String.ofList (loopText (.str "1e999"))) = .ok built ∧
      runAll ⟨"flow.json", Config.usual, built.nodeLines⟩ built [] = .ok found := by
  obtain ⟨document, built, decoded, succeeds, seen⟩ :=
    @Document.graph_ofList_json _ (loopText (.str "1e999"))
      (fun built => decide (∃ node ∈ built.nodes, CountsPastDoubles node)) false (by decide +kernel)
  rcases usual_run_of_json decoded succeeds with ⟨⟨found, returns⟩, _⟩ | ⟨_, counts⟩
  · exact ⟨document, built, found, decoded, succeeds, returns⟩
  · exact absurd counts (of_decide_eq_false seen)

/-- The same number as an integer stops the run. -/
theorem huge_timeout_stops_run :
    ∃ text document built, Json.decode text.toList = .ok document ∧
      Document.graph text = .ok built ∧
      ∀ path lines found, runAll ⟨path, Config.usual, lines⟩ built [] ≠ .ok found := by
  obtain ⟨document, built, decoded, succeeds, seen⟩ :=
    @Document.graph_ofList_json _ (loopText (.int (Nat.pow 10 309)))
      (fun built => decide (∃ node ∈ built.nodes, CountsPastDoubles node)) true (by decide +kernel)
  refine ⟨_, document, built, decoded, succeeds, fun path lines found returns => ?_⟩
  obtain ⟨node, listed, counts⟩ := of_decide_eq_true seen
  exact (exists_runAll_iff (areWritable_of_decode decoded succeeds)).mp ⟨found, returns⟩ node listed counts

end Rules

end WorkflowLint
