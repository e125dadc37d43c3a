import WorkflowLint.Proofs.ListedLiterals
import WorkflowLint.Proofs.PatchedRecords
import WorkflowLint.Proofs.WorkflowGraph

/-!
Contract: where the retry setting of a node comes from, and which calls are reported for lack of one.

A document can give the setting in four places.  Two of them reach a node through its parameters and
two through its flags, and the flags are dropped when nothing but the number of tries is given.  The
setting of the node is still the first of the four that is not null.
-/

set_option autoImplicit false

namespace WorkflowLint

open Document (Entries Accepted check decode graph describedNode flagsOf firstGiven)

/-! ## Sources of a setting -/

/-- The content at the first of the ways that leads to something other than null; null when none of
them does. -/
inductive FirstGiven (value : Value) : List (List String) → Value → Prop where
  | nowhere : FirstGiven value [] .null
  | here {way : List String} {others : List (List String)} {content : Value}
      (found : fieldAt way value = some content) (given : content ≠ .null) :
      FirstGiven value (way :: others) content
  | later {way : List String} {others : List (List String)} {content : Value}
      (silent : IsSilent (fieldAt way value)) (after : FirstGiven value others content) :
      FirstGiven value (way :: others) content

theorem firstGiven_cons (value : Value) (others : List Value) :
    firstGiven (value :: others) = if value.isNull then firstGiven others else value := by
  unfold firstGiven
  rw [List.find?_cons]
  cases value.isNull <;> rfl

/-- The last of several sources may be a choice among sources itself. -/
theorem firstGiven_nested (sources others : List Value) :
    firstGiven (sources ++ [firstGiven others]) = firstGiven (sources ++ others) := by
  induction sources with
  | nil =>
      rw [List.nil_append, List.nil_append, firstGiven_cons]
      split
      · next isNull => exact (isNull_iff.mp isNull).symm
      · rfl
  | cons source rest inductionHypothesis =>
      rw [List.cons_append, List.cons_append, firstGiven_cons, firstGiven_cons, inductionHypothesis]

private theorem firstGiven_fieldAt (value : Value) (ways : List (List String)) :
    FirstGiven value ways (firstGiven (ways.map fun way => (fieldAt way value).getD .null)) := by
  induction ways with
  | nil => exact .nowhere
  | cons way others inductionHypothesis =>
      rw [List.map_cons, firstGiven_cons]
      cases found : fieldAt way value with
      | none =>
          refine .later (fun content other => ?_) inductionHypothesis
          cases found.symm.trans other
      | some content =>
          rw [Option.getD_some]
          split
          · next isNull =>
              refine .later (fun other again => ?_) inductionHypothesis
              cases found.symm.trans again
              exact isNull_iff.mp isNull
          · next given => exact .here found (mt isNull_iff.mpr given)

private theorem getD_fieldAt_cons (name : String) (rest : List String) (value : Value) :
    (fieldAt (name :: rest) value).getD .null =
      (fieldAt rest (value.fieldOf name)).getD .null := by
  have nothing : (fieldAt rest .null).getD .null = .null := by cases rest <;> rfl
  cases value with
  | map entries =>
      rw [fieldAt_cons_map, Value.fieldOf, Value.field]
      cases Value.lookupText name entries with
      | none => exact nothing.symm
      | some content => rfl
  | _ => exact nothing.symm

/-! ## The setting of a node -/

/-- The places of the retry setting in the description of a node, the first that is given counts. -/
def retryWays : List (List String) :=
  [["parameters", "options", "retryOnFail"], ["parameters", "retryOnFail"], ["retryOnFail"],
    ["settings", "retryOnFail"]]

private theorem flagsOf_retryOnFail (fields : Entries) :
    ((flagsOf fields).map Flags.retryOnFail).getD .null =
      firstGiven [Value.field "retryOnFail" fields,
        (Value.field "settings" fields).fieldOf "retryOnFail"] := by
  rw [flagsOf]
  split
  · next dropped =>
      -- Flags are dropped only when the retry flag among them is null.
      simp only [Bool.and_eq_true] at dropped
      exact (isNull_iff.mp dropped.1.2).symm
  · rfl

theorem field_entries? (name : String) (value : Value) :
    Value.field name (value.entries?.getD []) = value.fieldOf name := by
  cases value <;> rfl

private theorem describedNode_retryPlaces (fields : Entries) :
    (describedNode fields).retryPlaces =
      [((Value.field "parameters" fields).fieldOf "options").fieldOf "retryOnFail",
        (Value.field "parameters" fields).fieldOf "retryOnFail",
        firstGiven [Value.field "retryOnFail" fields,
          (Value.field "settings" fields).fieldOf "retryOnFail"]] := by
  rw [Node.retryPlaces, ← flagsOf_retryOnFail, ← field_entries? "options",
    ← field_entries? "retryOnFail" (Value.field "parameters" fields)]
  rfl

private theorem describedNode_retrySetting (fields : Entries) :
    (describedNode fields).retrySetting =
      firstGiven (retryWays.map fun way => (fieldAt way (.map fields)).getD .null) := by
  have setting : (describedNode fields).retrySetting =
      firstGiven (describedNode fields).retryPlaces := rfl
  rw [setting, describedNode_retryPlaces]
  simp only [retryWays, List.map_cons, List.map_nil, getD_fieldAt_cons]
  exact firstGiven_nested [_, _] [_, _]

/-! ## Calls without retries -/

/-- A setting under which a call is tried again, or that is decided at run time. -/
inductive Value.SettlesRetry : Value → Prop where
  | on : SettlesRetry (.bool true)
  | expression {text : String} (marked : ['{', '{'] <:+: text.toList) : SettlesRetry (.str text)
  | word {text : String} (isTrue : Text.lowerChars (Text.trim text.toList) = "true".toList) :
      SettlesRetry (.str text)

theorem Value.settlesRetry_iff {value : Value} : value.settlesRetry = true ↔ value.SettlesRetry := by
  constructor
  · intro settles
    cases value with
    | bool flag =>
        cases (show flag = true from settles)
        exact .on
    | str text =>
        rcases Bool.or_eq_true_iff.mp settles with marked | isTrue
        · exact .expression (hasExpressionMark_iff.mp marked)
        · exact .word (eq_of_beq isTrue)
    | _ => cases settles
  · intro settles
    cases settles with
    | on => rfl
    | expression marked => exact Bool.or_eq_true_iff.mpr (.inl (hasExpressionMark_iff.mpr marked))
    | word isTrue => exact Bool.or_eq_true_iff.mpr (.inr (beq_iff_eq.mpr isTrue))

instance (value : Value) : Decidable value.SettlesRetry :=
  decidable_of_iff _ Value.settlesRetry_iff

namespace Rules

private theorem lacksRetry_iff {node : Node} :
    lacksRetry node = true ↔ isApi node.type = true ∧ ¬ node.retrySetting.SettlesRetry := by
  rw [lacksRetry, Bool.and_eq_true, Bool.not_eq_true', ← Value.settlesRetry_iff, Bool.not_eq_true]

private theorem rateLimitRetry_findings {context : Context} {graph : Graph}
    (enabled : rateLimitRetry.isEnabled context.config = true) :
    rateLimitRetry.findings context graph =
      .ok ((graph.nodes.filter fun node =>
          isApi node.type = true ∧ ¬ node.retrySetting.SettlesRetry).map fun node =>
        rateLimitRetry.found .must context (missingRetry node)) := by
  have sameNodes : graph.nodes.filter lacksRetry = graph.nodes.filter fun node =>
      isApi node.type = true ∧ ¬ node.retrySetting.SettlesRetry := by
    refine List.filter_congr fun node _ => ?_
    rw [Bool.eq_iff_iff, lacksRetry_iff, decide_eq_true_iff]
  rw [← sameNodes]
  exact Rule.findings_of_remarks rfl enabled (Sequence.gather_select lacksRetry missingRetry _)

end Rules

/-- Every workflow that is accepted has a graph, node by node as it is described.  The retry setting
of a node is the first that its description gives, whatever else it says; and R1 has a finding for
each node of a type that calls a service whose setting neither is on nor is decided at run time, and
no other finding. -/
theorem retry_setting_first_given {text : String} {document : Value} {accepted : Accepted}
    (decoded : decode text.toList = .ok document)
    (passed : check Schema.workflow document = .ok accepted) :
    Value.lookupText "nodes" accepted.document = some (.list (accepted.nodes.map .map)) ∧
    ∃ built, graph text = .ok built ∧
      List.Forall₂
        (fun fields node => Value.lookupText "type" fields = some (.str node.type) ∧
          FirstGiven (.map fields) retryWays node.retrySetting)
        accepted.nodes built.nodes ∧
      ∀ context : Context, Rules.rateLimitRetry.isEnabled context.config = true →
        Rules.rateLimitRetry.findings context built =
          .ok ((built.nodes.filter fun node =>
              isApi node.type = true ∧ ¬ node.retrySetting.SettlesRetry).map fun node =>
            Rules.rateLimitRetry.found .must context (Rules.missingRetry node)) := by
  obtain ⟨rfl, connections, workflow⟩ := Document.check_eq_ok_iff.mp passed
  obtain ⟨edges, succeeds, _⟩ := Document.graph_of_workflow workflow decoded
  refine ⟨workflow.nodesField, _, succeeds, ?_, fun context enabled =>
    Rules.rateLimitRetry_findings enabled⟩
  rw [List.forall₂_map_right_iff, List.forall₂_same]
  intro fields listed
  obtain ⟨type, typed, _⟩ := (workflow.eachNode fields listed).hasType
  constructor
  · rw [typed, describedNode, Document.textField?_eq_some typed]
    rfl
  · rw [describedNode_retrySetting]
    exact firstGiven_fieldAt (.map fields) retryWays

/-- Calls with settings in several places: one that is off before one that is on, one behind nulls,
none beside a number of tries, and one that is decided at run time. -/
def retryDocument : Value :=
  .record
    [("nodes", .list
      [.record [("id", .str "off"), ("name", .str "A"), ("type", .str "http"),
          ("parameters", .record [("options", .record [("retryOnFail", .bool false)])]),
          ("retryOnFail", .bool true)],
        .record [("id", .str "behind"), ("name", .str "B"), ("type", .str "http"),
          ("parameters", .record
            [("options", .record [("retryOnFail", .null)]), ("retryOnFail", .null)]),
          ("settings", .record [("retryOnFail", .str " TRUE ")])],
        .record [("id", .str "none"), ("name", .str "C"), ("type", .str "http"),
          ("parameters", .record [("options", .list [])]), ("maxTries", .int 3)],
        .record [("id", .str "later"), ("name", .str "D"), ("type", .str "http"),
          ("parameters", .record []), ("retryOnFail", .str "=\x7b\x7b $json.retry \x7d\x7d")]]),
      ("connections", .record [])]

def usualContext : Context := ⟨"flow.json", Config.usual, []⟩

theorem retry_setting_first_given_mixed :
    ∃ text document accepted built found,
      decode text.toList = .ok document ∧ check Schema.workflow document = .ok accepted ∧
      graph text = .ok built ∧
      List.Forall₂ (fun fields node => FirstGiven (.map fields) retryWays node.retrySetting)
        accepted.nodes built.nodes ∧
      built.nodes.map (·.id) = ["off", "behind", "none", "later"] ∧
      Rules.rateLimitRetry.findings usualContext built = .ok found ∧
      found.map Finding.nodeId = [some "off", some "none"] := by
  obtain ⟨document, accepted, built, decoded, passed, succeeds, seen⟩ :=
    @Document.graph_ofList _ (Json.compact retryDocument)
      (fun built => (built.nodes.map (·.id), (built.nodes.filter fun node =>
        isApi node.type = true ∧ ¬ node.retrySetting.SettlesRetry).map fun node => some node.id))
      (["off", "behind", "none", "later"], [some "off", some "none"]) (by decide +kernel)
  obtain ⟨ids, lacking⟩ := Prod.mk.inj seen
  obtain ⟨_, _, again, related, findings⟩ := retry_setting_first_given decoded passed
  cases succeeds.symm.trans again
  refine ⟨_, document, accepted, built, _, decoded, passed, succeeds,
    related.imp fun _ _ described => described.2, ids,
    findings usualContext (by decide +kernel), ?_⟩
  rw [List.map_map]
  exact lacking

end WorkflowLint
