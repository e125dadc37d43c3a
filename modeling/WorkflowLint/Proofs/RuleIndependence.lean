import WorkflowLint.Proofs.RuleEvaluation
import Mathlib.Data.List.Nodup

/-!
Contract: what the block of one rule decides.

Every rule of a run reads of a configuration the block under its own key only, and its findings bear
its own id.  Ids and keys of rules are distinct.  So two configurations that agree off the key of one
rule give runs that differ in the findings of that rule only, and a rule that is switched off takes
away its own findings and nothing else.
-/

set_option autoImplicit false

namespace WorkflowLint

/-- Two configurations have the same block under every key but one. -/
def Config.AgreeOff (key : String) (left right : Config) : Prop :=
  ∀ other, other ≠ key → left.block? other = right.block? other

/-- The findings that bear another id, in their order. -/
def Findings.without (id : String) (findings : List Finding) : List Finding :=
  findings.filter fun finding => finding.rule ≠ id

namespace Rules

open Sequence (gather gather_congr gather_filter exists_ok_of_gather)

/-! ## What rules read -/

/-- Configurations with the same block under the key of a rule are the same to the rule. -/
def ReadsOwnBlock (rule : Rule) : Prop :=
  ∀ {left right : Config}, left.block? rule.key = right.block? rule.key →
    ∀ graph, rule.remarks left graph = rule.remarks right graph

/-- A rule that looks at a field reads its own block when the block under its key stands there. -/
theorem readsOwnBlock_of_field {rule : Rule} {β : Type} {wrap : β → Block}
    {field : RuleBlocks → Option β} (injective : Function.Injective wrap)
    (holds : ∀ config : Config, config.block? rule.key = (field config.rules).map wrap)
    (reads : ∀ {left right : Config}, field left.rules = field right.rules →
      ∀ graph, rule.remarks left graph = rule.remarks right graph) : ReadsOwnBlock rule := by
  intro left right same graph
  rw [holds, holds] at same
  exact reads (Option.map_injective injective same) graph

private theorem errorHandling_readsOwnBlock : ReadsOwnBlock errorHandling := by
  refine @readsOwnBlock_of_field _ _ Block.errorHandling RuleBlocks.errorHandling
    (fun _ _ => Block.errorHandling.inj) (fun _ => rfl) ?_
  intro left right same graph
  simp only [errorHandling, Rule.perNode, same]

private theorem idempotency_readsOwnBlock : ReadsOwnBlock idempotency := by
  refine @readsOwnBlock_of_field _ _ Block.idempotency RuleBlocks.idempotency
    (fun _ _ => Block.idempotency.inj) (fun _ => rfl) ?_
  intro left right same graph
  simp only [idempotency, same]

private theorem longRunning_readsOwnBlock : ReadsOwnBlock longRunning := by
  refine @readsOwnBlock_of_field _ _ Block.longRunning RuleBlocks.longRunning
    (fun _ _ => Block.longRunning.inj) (fun _ => rfl) ?_
  intro left right same graph
  simp only [longRunning, Rule.perNode, same]

private theorem namingConvention_readsOwnBlock : ReadsOwnBlock namingConvention := by
  refine @readsOwnBlock_of_field _ _ Block.naming RuleBlocks.namingConvention
    (fun _ _ => Block.naming.inj) (fun _ => rfl) ?_
  intro left right same graph
  simp only [namingConvention, Rule.perNode, same]

private theorem webhookAcknowledgment_readsOwnBlock : ReadsOwnBlock webhookAcknowledgment := by
  refine @readsOwnBlock_of_field _ _ Block.webhook RuleBlocks.webhookAcknowledgment
    (fun _ _ => Block.webhook.inj) (fun _ => rfl) ?_
  intro left right same graph
  simp only [webhookAcknowledgment, heavyTypes, same]

theorem denylist_readsOwnBlock (id key : String) (severity? : Option Severity)
    (message : Node → String → String) (details : String) :
    ReadsOwnBlock (.denylist id key severity? message details) := by
  intro left right same graph
  have entries : Rule.denylistAt key left = Rule.denylistAt key right := by
    unfold Rule.denylistAt
    rw [show left.block? key = right.block? key from same]
  simp only [Rule.denylist, Rule.perNode, entries]

private theorem readsOwnBlock_of_builtin : ∀ rule ∈ builtin, ReadsOwnBlock rule := by
  simp only [builtin, List.forall_mem_cons, List.not_mem_nil, false_implies, implies_true, and_true]
  refine ⟨?_, errorHandling_readsOwnBlock, idempotency_readsOwnBlock,
    denylist_readsOwnBlock _ _ _ _ _, ?_, longRunning_readsOwnBlock, ?_, ?_,
    denylist_readsOwnBlock _ _ _ _ _, namingConvention_readsOwnBlock, ?_, ?_,
    webhookAcknowledgment_readsOwnBlock, ?_⟩
  -- The other rules have no settings of their own.
  all_goals exact fun _ _ => rfl

/-! ## Runs under two configurations -/

theorem builtin_ids_nodup : (builtin.map Rule.id).Nodup := by decide

private theorem builtin_keys_nodup : (builtin.map Rule.key).Nodup := by decide

section Runs

variable {path : String} {lines : List (String × Int)} {first second : Config} {graph : Graph}

private theorem findings_eq_of_block {rule : Rule} (listed : rule ∈ builtin)
    (same : first.block? rule.key = second.block? rule.key) :
    rule.findings ⟨path, first, lines⟩ graph = rule.findings ⟨path, second, lines⟩ graph := by
  obtain ⟨info, _, known⟩ := Rule.info_of_builtin listed
  have enabled : rule.isEnabled first = rule.isEnabled second := by
    rw [Rule.isEnabled, Rule.isEnabled, same]
  rw [Rule.findings_eq known, Rule.findings_eq known]
  simp only [enabled, readsOwnBlock_of_builtin rule listed same graph]
  rfl

private theorem findings_of_disabled {rule : Rule}
    (off : ∀ block, second.block? rule.key = some block → block.enabled = false) :
    rule.findings ⟨path, second, lines⟩ graph = .ok [] := by
  have disabled : rule.isEnabled second = false := by
    rw [Rule.isEnabled, Option.any_eq_false]
    intro block found
    simp [off block found]
  simp only [Rule.findings, disabled]
  rfl

/-- All findings of a rule bear its id. -/
theorem without_of_own {rule : Rule} {context : Context} {own : List Finding}
    (stepped : rule.findings context graph = .ok own) : Findings.without rule.id own = [] := by
  rw [Findings.without, List.filter_eq_nil_iff]
  intro finding member
  simp [Rule.rule_of_mem_findings stepped finding member]

/-- No finding of a rule bears the id of another. -/
theorem without_of_other {rule other : Rule} (listed : rule ∈ builtin)
    (otherListed : other ∈ builtin) (differs : other ≠ rule) {context : Context}
    {own : List Finding} (stepped : other.findings context graph = .ok own) :
    Findings.without rule.id own = own := by
  rw [Findings.without, List.filter_eq_self]
  intro finding member
  rw [Rule.rule_of_mem_findings stepped finding member, decide_eq_true_eq]
  intro sameId
  exact differs (List.inj_on_of_nodup_map builtin_ids_nodup otherListed listed sameId)

/-- Taking out the findings of one rule is done rule by rule. -/
theorem gather_without (id : String) {context : Context} {found : List Finding}
    (succeeds : runAll context graph [] = .ok found) :
    gather (fun rule => Findings.without id <$> rule.findings context graph) builtin =
      .ok (Findings.without id found) := by
  rw [runAll_eq_gather] at succeeds
  exact gather_filter _ succeeds

theorem exists_findings_of_runAll {context : Context} {found : List Finding}
    (succeeds : runAll context graph [] = .ok found) {rule : Rule} (listed : rule ∈ builtin) :
    ∃ own, rule.findings context graph = .ok own := by
  rw [runAll_eq_gather] at succeeds
  exact exists_ok_of_gather succeeds rule listed

section Agreeing

variable {rule : Rule} (listed : rule ∈ builtin) (agree : Config.AgreeOff rule.key first second)
include listed agree

theorem findings_of_other {other : Rule} (otherListed : other ∈ builtin) (differs : other ≠ rule) :
    other.findings ⟨path, first, lines⟩ graph = other.findings ⟨path, second, lines⟩ graph := by
  apply findings_eq_of_block otherListed
  apply agree
  intro sameKey
  exact differs (List.inj_on_of_nodup_map builtin_keys_nodup otherListed listed sameKey)

/-- Two configurations that agree off the block of one rule give runs that report the same list once
the findings of that rule are taken out.  Where the second configuration has no block for the rule,
or one that does not enable it, the second run succeeds with exactly the findings of the first that
are not of that rule. -/
theorem runAll_agreeOff {found : List Finding}
    (succeeds : runAll ⟨path, first, lines⟩ graph [] = .ok found) :
    (∀ others, runAll ⟨path, second, lines⟩ graph [] = .ok others →
      Findings.without rule.id others = Findings.without rule.id found) ∧
    ((∀ block, second.block? rule.key = some block → block.enabled = false) →
      runAll ⟨path, second, lines⟩ graph [] = .ok (Findings.without rule.id found)) := by
  have kept := gather_without rule.id succeeds
  constructor
  · intro others otherSucceeds
    have otherKept := gather_without rule.id otherSucceeds
    have same : ∀ other ∈ builtin,
        Findings.without rule.id <$> other.findings ⟨path, second, lines⟩ graph =
          Findings.without rule.id <$> other.findings ⟨path, first, lines⟩ graph := by
      intro other otherListed
      by_cases isRule : other = rule
      · -- Both runs return, so the rule itself has findings under both, and none is left.
        obtain ⟨own, stepped⟩ := exists_findings_of_runAll succeeds listed
        obtain ⟨otherOwn, otherStepped⟩ := exists_findings_of_runAll otherSucceeds listed
        rw [isRule, stepped, otherStepped]
        exact congrArg Except.ok
          ((without_of_own otherStepped).trans (without_of_own stepped).symm)
      · rw [findings_of_other listed agree otherListed isRule]
    rw [gather_congr same, kept] at otherKept
    exact (Except.ok.inj otherKept).symm
  · intro off
    rw [runAll_eq_gather, ← kept]
    apply gather_congr
    intro other otherListed
    obtain ⟨own, stepped⟩ := exists_findings_of_runAll succeeds otherListed
    by_cases isRule : other = rule
    · subst isRule
      rw [findings_of_disabled off, stepped]
      exact congrArg Except.ok (without_of_own stepped).symm
    · rw [← findings_of_other listed agree otherListed isRule, stepped]
      exact congrArg Except.ok (without_of_other listed otherListed isRule stepped).symm

end Agreeing

end Runs

/-- Two steps that nothing follows; the first has no name. -/
def looseGraph : Graph where
  nodes := [{ id := "a", type := "set" }, { id := "b", type := "set", name := some "Total" }]

def endsConfig : Config where
  rules := { deadEnds := some ⟨true⟩, namingConvention := some { enabled := true } }

def namesConfig : Config where
  rules := { deadEnds := some ⟨false⟩, namingConvention := some { enabled := true } }

private theorem agreeOff_deadEnds : Config.AgreeOff "dead_ends" endsConfig namesConfig := by
  intro other differs
  have otherKey : (other == "dead_ends") = false := beq_false_of_ne differs
  simp [Config.block?, RuleBlocks.keyed, List.lookup_cons, endsConfig, namesConfig, otherKey]

/-- Without the rule against dead ends, the finding about a name remains. -/
theorem runAll_agreeOff_loose :
    ∃ first second name,
      runAll ⟨"flow.json", endsConfig, []⟩ looseGraph [] = .ok [first, second, name] ∧
      [first, second, name].map (fun finding => (finding.rule, finding.nodeId)) =
        [("R5", some "a"), ("R5", some "b"), ("R10", some "a")] ∧
      runAll ⟨"flow.json", namesConfig, []⟩ looseGraph [] = .ok [name] := by
  have succeeds : runAll ⟨"flow.json", endsConfig, []⟩ looseGraph [] = .ok [_, _, _] := rfl
  have listed : deadEnds ∈ builtin := by simp [builtin]
  refine ⟨_, _, _, succeeds, rfl, ?_⟩
  refine (runAll_agreeOff listed agreeOff_deadEnds succeeds).2 ?_
  intro block found
  cases found
  rfl

end Rules

end WorkflowLint
