import WorkflowLint.Proofs.CaseFolding
import WorkflowLint.Config.Text
import WorkflowLint.Proofs.RuleEvaluation
import WorkflowLint.Proofs.WrittenTexts

/-!
Contract: nodes that name the header that announces a wait.

The rule on announced waits searches the JSON text of a whole node, in which keys have become texts and
characters are escaped.  The names of the header are made of characters that are matched by plain ASCII
characters only, so wherever a node spells one, the JSON text spells it too.
-/

set_option autoImplicit false

namespace WorkflowLint

/-! ## Names of the header in quotes -/

/-- Only ASCII characters match the letter, and those are not escaped. -/
def Json.IsPlainLetter (letter : Char) : Prop :=
  Text.IsMatchedByAscii letter ∧
    ∀ code < 128, Text.sameIgnoringCase letter (Char.ofNat code) = true →
      escapedChar (Char.ofNat code) = [Char.ofNat code]

instance (letter : Char) : Decidable (Json.IsPlainLetter letter) :=
  inferInstanceAs (Decidable (_ ∧ _))

private theorem Json.IsPlainLetter.escapedChar_eq {letter c : Char} (isPlain : IsPlainLetter letter)
    (same : Text.sameIgnoringCase letter c = true) : escapedChar c = [c] := by
  have plain := isPlain.2 c.toNat (isPlain.1.ascii same)
  rw [Char.ofNat_toNat] at plain
  exact plain same

namespace Rules

private theorem isPlainLetter_of_word {word : String} (isWord : word ∈ retryAfterWords)
    {letter : Char}
    (listed : letter ∈ word.toList) : Json.IsPlainLetter letter := by
  have checked : retryAfterWords.all (fun word =>
      word.toList.all fun letter => decide (Json.IsPlainLetter letter)) = true := by
    decide +kernel
  exact of_decide_eq_true (List.all_eq_true.mp (List.all_eq_true.mp checked word isWord) letter listed)

private theorem occurs_quotedText {word : String} (isWord : word ∈ retryAfterWords) {text : List Char}
    (occurs : Text.Occurs word.toList text) : Text.Occurs word.toList (Json.quotedText text) := by
  obtain ⟨part, isPart, matched⟩ := occurs
  refine ⟨part, Json.infix_quotedText isPart fun c member => ?_, matched⟩
  obtain ⟨letter, listed, same⟩ := Sequence.exists_related_of_mem matched member
  exact (isPlainLetter_of_word isWord listed).escapedChar_eq same

end Rules

theorem Text.Occurs.mono {keyword part text : List Char} (occurs : Occurs keyword part)
    (isPart : part <:+: text) : Occurs keyword text := by
  obtain ⟨stretch, isStretch, matched⟩ := occurs
  exact ⟨stretch, isStretch.trans isPart, matched⟩

/-! ## The texts of a node -/

namespace Node

/-- The texts that a node spells: its id, type and name, the texts among its flags, and the keys and
text leaves of its parameters and credentials. -/
inductive Spells (node : Node) : List Char → Prop where
  | id : Spells node node.id.toList
  | type : Spells node node.type.toList
  | name {name : String} (named : node.name = some name) : Spells node name.toList
  | flag {flags : Flags} {name text : String} (flagged : node.flags = some flags)
      (given : (name, Value.str text) ∈ flags.fields) : Spells node text.toList
  | params {entries : List (Value × Value)} {text : List Char} (given : node.params = some entries)
      (isShown : (Value.map entries).Shows text) : Spells node text
  | credentials {entries : List (Value × Value)} {text : List Char}
      (given : node.credentials = some entries) (isShown : (Value.map entries).Shows text) :
      Spells node text

/-- Parameters and credentials are JSON values with distinct keys. -/
structure IsSpelled (node : Node) : Prop where
  params : ∀ entries, node.params = some entries → (Value.map entries).IsSpelled
  credentials : ∀ entries, node.credentials = some entries → (Value.map entries).IsSpelled

private theorem fields_distinct (node : Node) : (node.fields.map Prod.fst).Nodup := by
  obtain ⟨id, type, name, params, credentials, flags⟩ := node
  cases name <;> cases params <;> cases credentials <;> cases flags <;>
    simp [fields, Value.optionalField]

private theorem flags_distinct (flags : Flags) : (flags.fields.map Prod.fst).Nodup := by
  refine List.Nodup.sublist (List.filter_sublist.map Prod.fst) ?_
  simp

variable {node : Node}

theorem compact_infix_field {name : String} {value : Value} (listed : (name, value) ∈ node.fields) :
    Json.compact value.withTextKeys <:+: Json.compact node.toValue.withTextKeys := by
  rw [toValue]
  exact Value.compact_infix_record node.fields_distinct listed

theorem quotedText_infix_text {name text : String} (listed : (name, .str text) ∈ node.fields) :
    Json.quotedText text.toList <:+: Json.compact node.toValue.withTextKeys := by
  rw [← Json.compact_str]
  exact compact_infix_field listed

theorem quotedText_infix_entries {name : String} {entries : List (Value × Value)}
    (listed : (name, .map entries) ∈ node.fields) (isSpelled : (Value.map entries).IsSpelled)
    {text : List Char} (isShown : (Value.map entries).Shows text) :
    Json.quotedText text <:+: Json.compact node.toValue.withTextKeys := by
  have isInfix := compact_infix_field listed
  rw [isSpelled.withTextKeys_eq] at isInfix
  exact (isSpelled.isWritten isShown).trans isInfix

/-- Whatever a node spells is written in quotes in its JSON text. -/
theorem Spells.isWritten {text : List Char} (spells : node.Spells text)
    (isSpelled : node.IsSpelled) :
    Json.quotedText text <:+: Json.compact node.toValue.withTextKeys := by
  cases spells with
  | id => exact @quotedText_infix_text node "id" node.id (by simp [fields, Value.optionalField])
  | type => exact @quotedText_infix_text node "type" node.type (by simp [fields, Value.optionalField])
  | name named => exact @quotedText_infix_text node "name" _ (by simp [fields, Value.optionalField, named])
  | @flag flags _ text flagged given =>
      have listed : ("flags", Value.record flags.fields) ∈ node.fields := by
        simp [fields, Value.optionalField, flagged]
      rw [← Json.compact_str]
      exact (Value.compact_infix_record (flags_distinct flags) given).trans
        (compact_infix_field listed)
  | params given isShown =>
      exact @quotedText_infix_entries node "params" _ (by simp [fields, Value.optionalField, given])
        (isSpelled.params _ given) text isShown
  | credentials given isShown =>
      exact @quotedText_infix_entries node "cred" _ (by simp [fields, Value.optionalField, given])
        (isSpelled.credentials _ given) text isShown

private theorem isJson_toValue (isSpelled : node.IsSpelled)
    (flagsJson : ∀ flags, node.flags = some flags → ∀ field ∈ flags.fields, field.2.IsJson) :
    node.toValue.IsJson := by
  apply Value.isJson_record
  simp only [fields, List.forall_mem_append, List.forall_mem_cons, List.not_mem_nil, false_implies,
    implies_true, and_true, Value.forall_mem_optionalField]
  exact ⟨⟨⟨⟨⟨.str _, .str _⟩, fun _ _ => .str _⟩,
    fun entries given => (isSpelled.params entries given).isJson⟩,
    fun entries given => (isSpelled.credentials entries given).isJson⟩,
    fun flags flagged => Value.isJson_record (flagsJson flags flagged)⟩

end Node

/-! ## The rule -/

namespace Rules

/-- The JSON text of the node holds a name of the header. -/
def writesRetryAfter (node : Node) : Bool :=
  Text.anyOccursIn retryAfterWords (Json.compact node.toValue.withTextKeys)

private theorem writesRetryAfter_of_spells {node : Node} (isSpelled : node.IsSpelled) {word : String}
    (isWord : word ∈ retryAfterWords) {text : List Char} (spells : node.Spells text)
    (occurs : Text.Occurs word.toList text) : writesRetryAfter node = true :=
  Text.anyOccursIn_iff.mpr ⟨word, isWord,
    (occurs_quotedText isWord occurs).mono (spells.isWritten isSpelled)⟩

theorem writesRetryAfter_of_ok {node : Node} {named : Bool}
    (searched : namesRetryAfter node = .ok named) : named = writesRetryAfter node := by
  unfold namesRetryAfter at searched
  dsimp only at searched
  split at searched
  · cases searched
  · split at searched <;> cases searched
    rfl

/-- A node that can be written gets a remark when it retries freely and does not write a name of the
header. -/
theorem remarks_of_retries {node : Node} {remarks : List Remark}
    (succeeds : (if retriesFreely node then
        (namesRetryAfter node).map fun named => if named then [] else [ignoredWait node]
      else .ok []) = .ok remarks) :
    remarks = if retriesFreely node && !writesRetryAfter node then [ignoredWait node] else [] := by
  cases free : retriesFreely node with
  | false =>
      rw [free] at succeeds
      cases succeeds
      rfl
  | true =>
      rw [free, if_pos rfl] at succeeds
      obtain ⟨named, searched, rfl⟩ := Sequence.map_eq_ok_iff.mp succeeds
      rw [Bool.true_and, ← writesRetryAfter_of_ok searched]
      cases named <;> rfl

private theorem retryAfterCompliance_findings {context : Context} {graph : Graph}
    {found : List Finding}
    (enabled : retryAfterCompliance.isEnabled context.config = true)
    (succeeds : retryAfterCompliance.findings context graph = .ok found) :
    found = (graph.nodes.filter fun node => retriesFreely node && !writesRetryAfter node).map
      fun node => retryAfterCompliance.found .should context (ignoredWait node) := by
  rw [Rule.findings_eq rfl, if_pos enabled, Sequence.map_eq_ok_iff] at succeeds
  obtain ⟨remarks, remarked, rfl⟩ := succeeds
  rw [Sequence.eq_select_of_gather (fun node _ own => remarks_of_retries) remarked, List.map_map]
  rfl

/-- A node that spells a name of the header anywhere is never reported by R14: what the rule reports
are the nodes that retry freely and whose JSON text holds no such name, and the node is none of them.
The search never answers that the node holds no name, and it answers at all when the flags are JSON and
every integer has few enough digits to be written. -/
theorem announced_wait_unreported {node : Node} (isSpelled : node.IsSpelled) {word : String}
    (isWord : word ∈ retryAfterWords) {text : List Char} (spells : node.Spells text)
    (occurs : Text.Occurs word.toList text) :
    namesRetryAfter node ≠ .ok false ∧
    ((∀ flags, node.flags = some flags → ∀ field ∈ flags.fields, field.2.IsJson) →
      node.toValue.isSpellable = true → namesRetryAfter node = .ok true) ∧
    ∀ (context : Context) (graph : Graph) (found : List Finding),
      retryAfterCompliance.findings context graph = .ok found →
      ∃ reported, reported.Sublist graph.nodes ∧ node ∉ reported ∧
        found = (reported.map fun other =>
          retryAfterCompliance.found .should context (ignoredWait other)) ∧
        (retryAfterCompliance.isEnabled context.config = true →
          reported = graph.nodes.filter fun other =>
            retriesFreely other && !writesRetryAfter other) := by
  have written := writesRetryAfter_of_spells isSpelled isWord spells occurs
  refine ⟨?_, ?_, ?_⟩
  · intro unnamed
    rw [← writesRetryAfter_of_ok unnamed] at written
    cases written
  · intro flagsJson spellable
    rw [namesRetryAfter_of_isJson (Node.isJson_toValue isSpelled flagsJson) spellable]
    exact congrArg Except.ok written
  · intro context graph found succeeds
    by_cases enabled : retryAfterCompliance.isEnabled context.config = true
    · refine ⟨_, List.filter_sublist, ?_, retryAfterCompliance_findings enabled succeeds, fun _ => rfl⟩
      -- The filter leaves out what writes a name, and the node does.
      intro member
      have kept := (List.mem_filter.mp member).2
      rw [written, Bool.not_true, Bool.and_false] at kept
      cases kept
    · rw [Rule.findings_eq rfl, if_neg enabled] at succeeds
      cases succeeds
      exact ⟨[], List.nil_sublist _, List.not_mem_nil, rfl, fun isOn => absurd isOn enabled⟩

/-- A call that names the header deep in its parameters, in a key with characters that are escaped. -/
def announcingNode : Node where
  id := "a"
  type := "http"
  params := some [(.str "list", .list [.record [("\u00e9\"Retry-AFTER\t", .null)]])]
  flags := some { retryOnFail := .bool true }

def carelessNode : Node where
  id := "b"
  type := "http"
  flags := some { retryOnFail := .bool true }

private theorem announcingNode_isSpelled : announcingNode.IsSpelled := by
  constructor
  · intro entries given
    cases given
    have inner : (Value.record [("\u00e9\"Retry-AFTER\t", .null)]).IsSpelled :=
      .map (by simp) (by simp) (by simp [Value.IsSpelled.null])
    exact .map (by simp) (by simp) (by simpa using .list (by simpa using inner))
  · intro entries given
    cases given

private theorem announcingNode_spells : announcingNode.Spells "\u00e9\"Retry-AFTER\t".toList :=
  .params rfl (.key (.field List.mem_cons_self (.item List.mem_cons_self .self)) List.mem_cons_self)

theorem announced_wait_unreported_deep :
    retriesFreely announcingNode = true ∧ namesRetryAfter announcingNode = .ok true ∧
      ∃ (found : List Finding) (reported : List Node),
        retryAfterCompliance.findings ⟨"flow.json", Config.usual, []⟩
          { nodes := [announcingNode, carelessNode] } = .ok found ∧
        found.map Finding.nodeId = [some "b"] ∧
        found.map Finding.nodeId = (reported.map fun other => some other.id) ∧
        announcingNode ∉ reported := by
  have occurs : Text.Occurs "retry-after".toList "\u00e9\"Retry-AFTER\t".toList :=
    Text.occursIn_iff.mp (by decide +kernel)
  obtain ⟨_, names, unreported⟩ := announced_wait_unreported announcingNode_isSpelled
    (show "retry-after" ∈ retryAfterWords by decide) announcingNode_spells occurs
  have evaluated : ((retryAfterCompliance.findings ⟨"flow.json", Config.usual, []⟩
      { nodes := [announcingNode, carelessNode] }).toOption.map fun found =>
        found.map Finding.nodeId) = some [some "b"] := by
    decide +kernel
  obtain ⟨found, isFound, ids⟩ := Option.map_eq_some_iff.mp evaluated
  rw [Sequence.toOption_eq_some_iff] at isFound
  obtain ⟨reported, _, absent, listed, _⟩ := unreported _ _ found isFound
  refine ⟨by decide +kernel, names ?_ (by decide +kernel), found, reported, isFound, ids, ?_, absent⟩
  · intro flags flagged
    cases flagged
    exact List.forall_mem_singleton.mpr (.bool true)
  · rw [listed, List.map_map]
    rfl

end Rules

end WorkflowLint
