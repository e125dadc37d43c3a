import WorkflowLint.Proofs.LeafPlaces
import WorkflowLint.Proofs.RuleEvaluation
import Mathlib.Data.List.Infix

/-!
Contract: which literals a rule with a denylist reports.

`IsListed` says of a text, without the walk that looks for it, that a denylist is against it: it is not
empty, it is no expression, and an entry of the list matches somewhere in it.  Such a rule has a finding
for each node with a listed leaf in its parameters, and makes it from the leaf at the least way.

Main statements: `listed_literals_reported`, for every rule of this kind that has a severity, and
`uncatalogued_literal_unreported`, that one without a severity stops instead.
-/

set_option autoImplicit false

namespace WorkflowLint

open Value (LeafAt)

/-! ## Listed texts -/

namespace Value

theorem hasExpressionMark_iff {text : List Char} :
    hasExpressionMark text = true ↔ ['{', '{'] <:+: text := by
  fun_induction hasExpressionMark text with
  | case1 rest => exact iff_of_true rfl ⟨[], rest, rfl⟩
  | case2 first rest noMark inductionHypothesis =>
      rw [inductionHypothesis, List.infix_cons_iff]
      have notHere : ¬ ['{', '{'] <+: first :: rest := by
        intro isPrefix
        obtain ⟨after, equal⟩ := isPrefix
        injection equal with isFirst isRest
        exact noMark after isFirst.symm isRest.symm
      exact (or_iff_right notHere).symm
  | case3 => simp

end Value

namespace Rule

/-- The denylist is against a text: the text has content, it is no expression, and an entry matches
somewhere in it. -/
def IsListed (entries : List String) (text : String) : Prop :=
  text ≠ "" ∧ ¬ ['{', '{'] <:+: text.toList ∧
    ∃ entry ∈ entries, ∃ pattern, Regex.ofEntry entry = .ok pattern ∧ pattern.occursIn text = true

/-- A listed text stands somewhere in the parameters of the node. -/
def HoldsListed (entries : List String) (node : Node) : Prop :=
  ∃ way text, LeafAt node.paramsValue way text ∧ IsListed entries text

/-- The text is the first listed one in the parameters of the node. -/
def IsFirstListed (entries : List String) (node : Node) (text : String) : Prop :=
  ∃ way, LeafAt node.paramsValue way text ∧ IsListed entries text ∧
    ∀ before other, before < way → LeafAt node.paramsValue before other → ¬ IsListed entries other

/-- The literals in the parameters of a node, from left to right. -/
def literals (node : Node) : List String := node.paramsValue.leaves.filter isLiteral

/-- The patterns of the entries that are patterns. -/
def compiled (entries : List String) : List Regex.Pattern :=
  entries.filterMap fun entry => (Regex.ofEntry entry).toOption

private theorem isLiteral_iff {text : String} :
    isLiteral text = true ↔ text ≠ "" ∧ ¬ ['{', '{'] <:+: text.toList := by
  rw [isLiteral, Bool.and_eq_true, Bool.not_eq_true', Bool.not_eq_true',
    ← Value.hasExpressionMark_iff, Bool.not_eq_true, ← Bool.not_eq_true, String.isEmpty_iff]

theorem any_compiled_iff {entries : List String} {text : String} :
    ((compiled entries).any fun pattern => pattern.occursIn text) = true ↔
      ∃ entry ∈ entries, ∃ pattern, Regex.ofEntry entry = .ok pattern ∧
        pattern.occursIn text = true := by
  simp only [compiled, List.any_eq_true, List.mem_filterMap, Sequence.toOption_eq_some_iff]
  constructor
  · rintro ⟨pattern, ⟨entry, listed, isPattern⟩, occurs⟩
    exact ⟨entry, listed, pattern, isPattern, occurs⟩
  · rintro ⟨entry, listed, pattern, isPattern, occurs⟩
    exact ⟨pattern, ⟨entry, listed, isPattern⟩, occurs⟩

theorem isListed_iff {entries : List String} {text : String} :
    (isLiteral text && (compiled entries).any fun pattern => pattern.occursIn text) = true ↔
      IsListed entries text := by
  rw [Bool.and_eq_true, isLiteral_iff, any_compiled_iff, and_assoc]
  rfl

/-- The first literal of a node that an entry matches. -/
def firstListed? (entries : List String) (node : Node) : Option String :=
  (literals node).find? fun text => (compiled entries).any fun pattern => pattern.occursIn text

theorem firstListed?_eq_find? (entries : List String) (node : Node) :
    firstListed? entries node = node.paramsValue.leaves.find? fun text =>
      isLiteral text && (compiled entries).any fun pattern => pattern.occursIn text := by
  rw [firstListed?, literals, List.find?_filter]
  simp only [Bool.decide_and, Bool.decide_eq_true]

private theorem listedLiteral?_compiled (entries : List String) (node : Node) :
    listedLiteral? (compiled entries) node = firstListed? entries node := by
  rw [listedLiteral?, Value.collectTexts_eq_leaves, firstListed?_eq_find?]

/-- The search in the parameters of a node finds the first listed text. -/
theorem firstListed?_eq_some_iff {entries : List String} {node : Node} {text : String} :
    firstListed? entries node = some text ↔ IsFirstListed entries node text := by
  rw [firstListed?_eq_find?, Value.find?_leaves_iff]
  simp only [isListed_iff, ← Bool.not_eq_true, IsFirstListed]

theorem firstListed?_isSome_iff {entries : List String} {node : Node} :
    (firstListed? entries node).isSome = true ↔ HoldsListed entries node := by
  rw [firstListed?_eq_find?, List.find?_isSome]
  simp only [isListed_iff, Value.mem_leaves_iff, HoldsListed]
  constructor
  · rintro ⟨text, ⟨way, stands⟩, listed⟩
    exact ⟨way, text, stands, listed⟩
  · rintro ⟨way, text, stands, listed⟩
    exact ⟨text, ⟨way, stands⟩, listed⟩

instance (entries : List String) : DecidablePred (HoldsListed entries) :=
  fun _ => decidable_of_iff _ firstListed?_isSome_iff

/-- When all entries are patterns, they are the patterns of the denylist. -/
theorem patternsOf_eq_ok {entries : List String}
    (compile : ∀ entry ∈ entries, ∃ pattern, Regex.ofEntry entry = .ok pattern) :
    patternsOf entries = .ok (compiled entries) := by
  induction entries with
  | nil => rfl
  | cons entry rest inductionHypothesis =>
      obtain ⟨⟨pattern, isPattern⟩, restCompile⟩ := List.forall_mem_cons.mp compile
      have restPatterns := inductionHypothesis restCompile
      unfold patternsOf at restPatterns ⊢
      rw [List.mapM_cons, restPatterns, isPattern]
      simp [compiled, isPattern, Except.toOption]
      rfl

/-! ## Findings of a denylist -/

/-- What a denylist says about a node with a listed text. -/
def listedRemark (message : Node → String → String) (details : String) (found : Node × String) :
    Remark :=
  ⟨found.1.id, message found.1 found.2, some details⟩

/-- The nodes with a listed text, each with its first one. -/
def listedIn (entries : List String) (nodes : List Node) : List (Node × String) :=
  nodes.flatMap fun node =>
    (firstListed? entries node).toList.map fun text => (node, text)

theorem listedIn_cons (entries : List String) (node : Node) (rest : List Node) :
    listedIn entries (node :: rest) =
      ((firstListed? entries node).toList.map fun text => (node, text)) ++
        listedIn entries rest :=
  List.flatMap_cons

private theorem gather_listed (entries : List String) (message : Node → String → String)
    (details : String) (nodes : List Node) :
    Sequence.gather (fun node =>
        (.ok ((firstListed? entries node).toList.map fun text =>
          ⟨node.id, message node text, some details⟩) : Except RuleFault (List Remark))) nodes =
      .ok ((listedIn entries nodes).map (listedRemark message details)) := by
  induction nodes with
  | nil => rfl
  | cons node rest inductionHypothesis =>
      rw [Sequence.gather_cons, inductionHypothesis, listedIn_cons, List.map_append, List.map_map]
      rfl

/-- The nodes that are found are those with a listed text, in order. -/
theorem map_fst_listedIn (entries : List String) (nodes : List Node) :
    (listedIn entries nodes).map Prod.fst = nodes.filter fun node => HoldsListed entries node := by
  induction nodes with
  | nil => rfl
  | cons node rest inductionHypothesis =>
      have holds_iff : decide (HoldsListed entries node) =
          (firstListed? entries node).isSome := by
        rw [Bool.eq_iff_iff, decide_eq_true_iff, firstListed?_isSome_iff]
      rw [List.filter_cons, holds_iff, ← inductionHypothesis, listedIn_cons]
      cases firstListed? entries node with
      | none => rfl
      | some text => rfl

private theorem isFirstListed_of_mem {entries : List String} {nodes : List Node}
    {found : Node × String}
    (member : found ∈ listedIn entries nodes) : IsFirstListed entries found.1 found.2 := by
  obtain ⟨node, _, isFound⟩ := List.mem_flatMap.mp member
  obtain ⟨text, isText, rfl⟩ := List.mem_map.mp isFound
  exact firstListed?_eq_some_iff.mp (Option.mem_toList.mp isText)

/-- Two nodes with one id and the same literals, of which the message says the same. -/
structure SameLiterals (message : Node → String → String) (first second : Node) : Prop where
  id : first.id = second.id
  literals : literals first = literals second
  message : ∀ text, message first text = message second text

/-- The order of the entries decides nothing. -/
theorem firstListed?_perm {entries others : List String} (same : entries.Perm others)
    (node : Node) : firstListed? entries node = firstListed? others node := by
  have sameTest : (fun text => (compiled entries).any fun pattern => pattern.occursIn text) =
      fun text => (compiled others).any fun pattern => pattern.occursIn text := by
    funext text
    rw [Bool.eq_iff_iff, any_compiled_iff, any_compiled_iff]
    simp only [same.mem_iff]
  rw [firstListed?, firstListed?, sameTest]

/-- Nodes with the same literals are remarked on in the same way. -/
theorem remarks_of_sameLiterals {message : Node → String → String} {details : String}
    {entries others : List String} (same : entries.Perm others) {nodes otherNodes : List Node}
    (related : List.Forall₂ (SameLiterals message) nodes otherNodes) :
    (listedIn others otherNodes).map (listedRemark message details) =
      (listedIn entries nodes).map (listedRemark message details) := by
  induction related with
  | nil => rfl
  | @cons node other nodes otherNodes alike _ inductionHypothesis =>
      have sameFirst : firstListed? others other = firstListed? entries node := by
        rw [← firstListed?_perm same other, firstListed?, firstListed?, alike.literals]
      rw [listedIn_cons, listedIn_cons, List.map_append, List.map_append, List.map_map, List.map_map,
        inductionHypothesis, sameFirst]
      congr 2
      funext text
      simp only [Function.comp_apply, listedRemark, alike.id, alike.message]

section Findings

variable {id key : String} {severity? : Option Severity} {message : Node → String → String}
  {details : String} {rule : Rule} {severity : Severity} {context : Context}
  {block : DenylistBlock}

theorem denylist_isEnabled (kind : rule = denylist id key severity? message details)
    (configured : context.config.block? key = some (.denylist block))
    (enabled : block.enabled = true) : rule.isEnabled context.config = true := by
  subst kind
  show (context.config.block? key).any Block.enabled = true
  rw [configured]
  exact enabled

/-- A rule with a denylist of patterns remarks on each node with a listed text. -/
theorem denylist_remarks (kind : rule = denylist id key severity? message details)
    (configured : context.config.block? key = some (.denylist block))
    (compile : ∀ entry ∈ block.entries, ∃ pattern, Regex.ofEntry entry = .ok pattern)
    (graph : Graph) :
    rule.remarks context.config graph =
      .ok ((listedIn block.entries graph.nodes).map (listedRemark message details)) := by
  have entriesAt : denylistAt key context.config = block.entries := by
    rw [denylistAt, configured]
  subst kind
  show Sequence.gather (denylistRemarks (denylistAt key context.config) message details)
    graph.nodes = _
  rw [entriesAt, ← gather_listed]
  refine Sequence.gather_congr fun node _ => ?_
  rw [denylistRemarks, patternsOf_eq_ok compile, ← listedLiteral?_compiled]
  rfl

theorem denylist_findings (kind : rule = denylist id key severity? message details)
    (known : rule.severity = .ok severity)
    (configured : context.config.block? key = some (.denylist block))
    (enabled : block.enabled = true)
    (compile : ∀ entry ∈ block.entries, ∃ pattern, Regex.ofEntry entry = .ok pattern)
    (graph : Graph) :
    rule.findings context graph =
      .ok (((listedIn block.entries graph.nodes).map (listedRemark message details)).map
        (rule.found severity context)) := by
  rw [Rule.findings_eq known, if_pos (denylist_isEnabled kind configured enabled),
    denylist_remarks kind configured compile]
  rfl

/-- Without a severity the rule stops as soon as a node holds a listed text. -/
theorem denylist_stops (kind : rule = denylist id key severity? message details) {fault : RuleFault}
    (unknown : rule.severity = .error fault)
    (configured : context.config.block? key = some (.denylist block))
    (enabled : block.enabled = true)
    (compile : ∀ entry ∈ block.entries, ∃ pattern, Regex.ofEntry entry = .ok pattern)
    {graph : Graph} {node : Node} (listed : node ∈ graph.nodes)
    (holds : HoldsListed block.entries node) : rule.findings context graph = .error fault := by
  have isFound : node ∈ (listedIn block.entries graph.nodes).map Prod.fst := by
    rw [map_fst_listedIn, List.mem_filter]
    exact ⟨listed, decide_eq_true holds⟩
  rw [findings, if_pos (denylist_isEnabled kind configured enabled),
    denylist_remarks kind configured compile]
  cases reported : listedIn block.entries graph.nodes with
  | nil =>
      rw [reported] at isFound
      cases isFound
  | cons first rest =>
      show ((listedRemark message details first ::
        rest.map (listedRemark message details)).mapM (rule.finding context)) = _
      rw [List.mapM_cons, finding, unknown]
      rfl

/-- A rule with a denylist and a severity has one finding for each node that holds a listed text, in the
order of the nodes, made from the first listed text of the node.  The order of the entries decides
nothing, and of a node only its id, its literals and what the message reads.  R4 and R9 are such rules;
the message of the first reads the label, that of the second the label and 40 characters of the text. -/
theorem listed_literals_reported (kind : rule = denylist id key severity? message details)
    (known : rule.severity = .ok severity)
    (configured : context.config.block? key = some (.denylist block))
    (enabled : block.enabled = true)
    (compile : ∀ entry ∈ block.entries, ∃ pattern, Regex.ofEntry entry = .ok pattern)
    (graph : Graph) :
    (∃ reported : List (Node × String),
      rule.findings context graph =
        .ok (reported.map fun pair =>
          rule.found severity context ⟨pair.1.id, message pair.1 pair.2, some details⟩) ∧
      reported.map Prod.fst = graph.nodes.filter (fun node => HoldsListed block.entries node) ∧
      ∀ pair ∈ reported, IsFirstListed block.entries pair.1 pair.2) ∧
    (∀ (other : Context) (otherBlock : DenylistBlock) (otherGraph : Graph),
      other.path = context.path → other.lines = context.lines →
      other.config.block? key = some (.denylist otherBlock) → otherBlock.enabled = true →
      block.entries.Perm otherBlock.entries →
      List.Forall₂ (SameLiterals message) graph.nodes otherGraph.nodes →
        rule.findings other otherGraph = rule.findings context graph) ∧
    (∃ details, Rules.secrets = denylist "R4" "secrets" none (fun node _ =>
      "Node " ++ node.label ++ " contains a hardcoded secret (move it to credentials/env vars)")
        details) ∧
    ∃ details, Rules.configLiterals = denylist "R9" "config_literals" none (fun node text =>
      "Node " ++ node.label ++ " contains env-specific literal \"" ++
        String.ofList (text.toList.take 40) ++ "\" (move to expression/credential)") details := by
  have found := denylist_findings kind known configured enabled compile graph
  refine ⟨⟨listedIn block.entries graph.nodes, ?_, map_fst_listedIn _ _, ?_⟩, ?_, ⟨_, rfl⟩, ⟨_, rfl⟩⟩
  · rw [found, List.map_map]
    rfl
  · exact fun pair member => isFirstListed_of_mem member
  · intro other otherBlock otherGraph samePath sameLines otherConfigured otherEnabled sameEntries
      related
    have otherCompile : ∀ entry ∈ otherBlock.entries, ∃ pattern,
        Regex.ofEntry entry = .ok pattern := by
      intro entry listed
      exact compile entry (sameEntries.mem_iff.mpr listed)
    have sameFound : rule.found severity other = rule.found severity context := by
      funext remark
      simp only [Rule.found, samePath, sameLines]
    rw [denylist_findings kind known otherConfigured otherEnabled otherCompile otherGraph, found,
      remarks_of_sameLiterals sameEntries related, sameFound]

end Findings

theorem compile_of_isSome {entries : List String}
    (compiles : ∀ entry ∈ entries, (Regex.ofEntry entry).toOption.isSome = true) :
    ∀ entry ∈ entries, ∃ pattern, Regex.ofEntry entry = .ok pattern := by
  intro entry listed
  obtain ⟨pattern, isPattern⟩ := Option.isSome_iff_exists.mp (compiles entry listed)
  exact ⟨pattern, Sequence.toOption_eq_some_iff.mp isPattern⟩

/-- A node that names an environment in keys, credentials and an expression only, and one with listed
texts deep in a list, after an expression. -/
def literalsGraph : Graph where
  nodes := [
    { id := "quiet", type := "set"
      params := some [(.str "prod", .str ""), (.str "url", .str "\x7b\x7b $env.prod \x7d\x7d")]
      credentials := some [(.str "staging", .str "prod")] },
    { id := "call", type := "http"
      params := some [(.str "base", .str "\x7b\x7b $env.staging \x7d\x7d"),
        (.str "rows", .list [.null, .record [("url", .tuple
          [.str "https://staging.example.com/orders/open/today", .str "PROD"])]])] }]

def literalsContext : Context where
  path := "flow.json"
  config := { rules := { configLiterals := some ⟨true, ["\\bstaging\\b", "(?i)prod"]⟩ } }

/-- Only the second node is reported, with 40 characters of the first listed text, also when the entries
change places. -/
theorem listed_literals_reported_nested :
    (Rules.configLiterals.findings literalsContext literalsGraph).toOption.map
        (List.map Finding.message) =
      some ["Node call contains env-specific literal \"https://staging.example.com/orders/open/\" " ++
        "(move to expression/credential)"] ∧
    Rules.configLiterals.findings
        { path := "flow.json"
          config := { rules := { configLiterals := some ⟨true, ["(?i)prod", "\\bstaging\\b"]⟩ } } }
        literalsGraph =
      Rules.configLiterals.findings literalsContext literalsGraph := by
  have compile := @compile_of_isSome ["\\bstaging\\b", "(?i)prod"] (by decide +kernel)
  obtain ⟨_, alike, _⟩ := @listed_literals_reported "R9" "config_literals" none _ _
    Rules.configLiterals .should literalsContext ⟨true, ["\\bstaging\\b", "(?i)prod"]⟩ rfl rfl rfl rfl
    compile literalsGraph
  refine ⟨by decide +kernel, ?_⟩
  refine alike _ ⟨true, ["(?i)prod", "\\bstaging\\b"]⟩ literalsGraph rfl rfl rfl rfl (.swap _ _ []) ?_
  exact List.forall₂_same.mpr fun _ _ => ⟨rfl, rfl, fun _ => rfl⟩

/-- A node with a secret in its parameters, with and without credentials. -/
def secretNode (credentials : Option (List (Value × Value))) : Node where
  id := "a"
  type := "set"
  params := some [(.str "t", .str "Bearer abc")]
  credentials := credentials

def secretsContext : Context where
  path := "flow.json"
  config := { rules := { secrets := some ⟨true, ["Bearer "]⟩ } }

/-- A rule with a denylist that has no severity stops at a listed text.  A rule whose message reads the
credentials of a node has another finding when they change. -/
theorem uncatalogued_literal_unreported :
    (secretsContext.config.block? "secrets" = some (.denylist ⟨true, ["Bearer "]⟩) ∧
      (∃ pattern, Regex.ofEntry "Bearer " = .ok pattern) ∧
      HoldsListed ["Bearer "] (secretNode none) ∧
      (denylist "X4" "secrets" none (fun node text => node.label ++ ": " ++ text) "d").findings
        secretsContext { nodes := [secretNode none] } = .error (.uncatalogued "X4")) ∧
    (denylist "X5" "secrets" (some .nit)
        (fun node _ => if node.credentials.isSome then "locked" else "open") "d").findings
        secretsContext { nodes := [secretNode none] } ≠
      (denylist "X5" "secrets" (some .nit)
        (fun node _ => if node.credentials.isSome then "locked" else "open") "d").findings
        secretsContext { nodes := [secretNode (some [])] } := by
  have compile := @compile_of_isSome ["Bearer "] (by decide +kernel)
  have holds : HoldsListed ["Bearer "] (secretNode none) := by decide +kernel
  refine ⟨⟨rfl, compile _ List.mem_cons_self, holds, ?_⟩, ?_⟩
  · exact @denylist_stops "X4" "secrets" none _ _ _ secretsContext ⟨true, ["Bearer "]⟩ rfl _ rfl rfl rfl
      compile _ _ List.mem_cons_self holds
  · intro equal
    have seen := congrArg (fun found => found.toOption.map (List.map Finding.message)) equal
    revert seen
    decide +kernel

end Rule

end WorkflowLint
