import WorkflowLint.Graph.Reach
import WorkflowLint.Proofs.GraphLookups
import Mathlib.Data.List.Perm.Subperm
import Mathlib.Logic.Relation

/-!
Contract: which ids a walk over a graph meets.

`Drains` is the loop of a walk without a bound on its length.  One expansion keeps `WalksFrom`, so a
loop that ends has met exactly the ids that steps lead to.  Every id met after the first is an end
of an edge, so the loop ends within the bound that the number of edges gives.

Main statements: descendants are the ids that a path of edges leads to, ancestors those from which
one leads back, on every graph, with cycles, repeated ids and edges that dangle.
-/

set_option autoImplicit false

namespace WorkflowLint.Graph

open Relation (ReflTransGen)

/-! ## Fresh ids -/

theorem mem_fresh {met ids : List String} {id : String} :
    id ∈ fresh met ids ↔ id ∈ ids ∧ id ∉ met := by
  induction ids generalizing met with
  | nil => simp [fresh]
  | cons first rest inductionHypothesis =>
      by_cases known : first ∈ met
      · rw [fresh, if_pos (List.contains_iff_mem.mpr known), inductionHypothesis, List.mem_cons]
        constructor
        · exact fun later => ⟨.inr later.1, later.2⟩
        · rintro ⟨rfl | later, isNew⟩
          · exact absurd known isNew
          · exact ⟨later, isNew⟩
      · rw [fresh, if_neg (by simpa using known), List.mem_cons, inductionHypothesis, List.mem_cons,
          List.mem_cons]
        by_cases isFirst : id = first
        · simp [isFirst, known]
        · simp [isFirst]

private theorem fresh_nodup (met ids : List String) : (fresh met ids).Nodup := by
  induction ids generalizing met with
  | nil => exact List.nodup_nil
  | cons first rest inductionHypothesis =>
      rw [fresh]
      split
      · exact inductionHypothesis met
      · refine List.nodup_cons.mpr ⟨?_, inductionHypothesis (first :: met)⟩
        intro later
        exact (mem_fresh.mp later).2 List.mem_cons_self

/-! ## The loop of a walk -/

/-- The loop of a walk: it takes ids from the queue until none is left, and ends with the ids met. -/
inductive Drains (next : String → List String) :
    List String → List String → List String → Prop where
  | done {met : List String} : Drains next met [] met
  | expand {met queue result : List String} {id : String}
      (rest : Drains next (met ++ fresh met (next id)) (queue ++ fresh met (next id)) result) :
      Drains next met (id :: queue) result

theorem Drains.unique {next : String → List String} {met queue first second : List String}
    (firstRun : Drains next met queue first) (secondRun : Drains next met queue second) :
    first = second := by
  induction firstRun with
  | done =>
      cases secondRun
      rfl
  | expand _ inductionHypothesis =>
      cases secondRun with
      | expand rest => exact inductionHypothesis rest

/-- What holds of a walk between two expansions. -/
structure WalksFrom (next : String → List String) (start : String) (met queue : List String) :
    Prop where
  distinct : met.Nodup
  begun : start ∈ met
  reached : ∀ id ∈ met, ReflTransGen (fun source target => target ∈ next source) start id
  queued : ∀ id ∈ queue, id ∈ met
  expanded : ∀ id ∈ met, id ∉ queue → ∀ other ∈ next id, other ∈ met

section Walks

variable {next : String → List String} {start : String} {met queue : List String}

theorem walksFrom_start (next : String → List String) (start : String) :
    WalksFrom next start [start] [start] where
  distinct := List.nodup_singleton start
  begun := List.mem_singleton_self start
  reached := by
    intro id member
    rw [List.mem_singleton.mp member]
  queued := fun _ member => member
  expanded := fun _ member waits => absurd member waits

/-- One expansion keeps what holds of a walk. -/
theorem WalksFrom.expand {id : String} (walks : WalksFrom next start met (id :: queue)) :
    WalksFrom next start (met ++ fresh met (next id)) (queue ++ fresh met (next id)) where
  distinct := by
    refine walks.distinct.append (fresh_nodup met (next id)) ?_
    intro other known isFresh
    exact (mem_fresh.mp isFresh).2 known
  begun := List.mem_append_left _ walks.begun
  reached := by
    intro other member
    rcases List.mem_append.mp member with known | isFresh
    · exact walks.reached other known
    · exact (walks.reached id (walks.queued id List.mem_cons_self)).tail (mem_fresh.mp isFresh).1
  queued := by
    intro other member
    rcases List.mem_append.mp member with waits | isFresh
    · exact List.mem_append_left _ (walks.queued other (List.mem_cons_of_mem id waits))
    · exact List.mem_append_right _ isFresh
  expanded := by
    intro other member waits target isNext
    rw [List.mem_append, not_or] at waits
    have known : other ∈ met := (List.mem_append.mp member).resolve_right waits.2
    -- The expanded id has its targets among those met; of the others this held before.
    by_cases isExpanded : other = id
    · subst isExpanded
      by_cases targetMet : target ∈ met
      · exact List.mem_append_left _ targetMet
      · exact List.mem_append_right _ (mem_fresh.mpr ⟨isNext, targetMet⟩)
    · have waitsNot : other ∉ id :: queue := by simp [isExpanded, waits.1]
      exact List.mem_append_left _ (walks.expanded other known waitsNot target isNext)

/-- A loop that ends keeps what holds of a walk. -/
theorem WalksFrom.of_drains {result : List String} (walks : WalksFrom next start met queue)
    (run : Drains next met queue result) : WalksFrom next start result [] := by
  induction run with
  | done => exact walks
  | expand _ inductionHypothesis => exact inductionHypothesis walks.expand

/-- With nothing left to expand, the ids met are those that steps lead to. -/
theorem WalksFrom.mem_iff (walks : WalksFrom next start met []) {id : String} :
    id ∈ met ↔ ReflTransGen (fun source target => target ∈ next source) start id := by
  constructor
  · exact walks.reached id
  · intro path
    induction path with
    | refl => exact walks.begun
    | @tail middle last _ isNext inductionHypothesis =>
        exact walks.expanded middle inductionHypothesis List.not_mem_nil last isNext

/-- A bounded walk is a whole loop when the bound covers the queue and the ids not yet met. -/
theorem WalksFrom.drains {ids : List String} {fuel : Nat} (walks : WalksFrom next start met queue)
    (within : met ⊆ ids) (nextWithin : ∀ id, next id ⊆ ids)
    (enough : queue.length + ids.length ≤ met.length + fuel) :
    Drains next met queue (walk next fuel met queue) := by
  induction fuel generalizing met queue with
  | zero =>
      have metLength : met.length ≤ ids.length :=
        (List.subperm_of_subset walks.distinct within).length_le
      have empty : queue = [] := List.eq_nil_of_length_eq_zero (by omega)
      subst empty
      exact .done
  | succ fuel inductionHypothesis =>
      cases queue with
      | nil => exact .done
      | cons id queue =>
          refine .expand (inductionHypothesis walks.expand ?_ ?_)
          · refine List.append_subset.mpr ⟨within, ?_⟩
            intro other isFresh
            exact nextWithin id (mem_fresh.mp isFresh).1
          · simp only [List.length_append, List.length_cons] at enough ⊢
            omega

end Walks

/-! ## Walks along edges -/

section Reach

variable {graph : Graph} {next : String → List String} {side : Edge → String} {start : String}

/-- A walk whose steps lead to ends of edges is a whole loop. -/
theorem reach_drains (along : ∀ id, next id ⊆ graph.edges.map side) :
    Drains next [start] [start] (graph.reach next start) := by
  apply @WalksFrom.drains _ _ _ _ (start :: graph.edges.map side) _ (walksFrom_start next start)
  · exact List.cons_subset.mpr ⟨List.mem_cons_self, List.nil_subset _⟩
  · exact fun id => List.subset_cons_of_subset start (along id)
  · simp only [List.length_cons, List.length_nil, List.length_map]
    omega

theorem reach_walks (along : ∀ id, next id ⊆ graph.edges.map side) :
    WalksFrom next start (graph.reach next start) [] :=
  (walksFrom_start next start).of_drains (reach_drains along)

theorem mem_reach_iff (along : ∀ id, next id ⊆ graph.edges.map side) {id : String} :
    id ∈ graph.reach next start ↔
      ReflTransGen (fun source target => target ∈ next source) start id :=
  (reach_walks along).mem_iff

end Reach

/-- An edge joins two ids. -/
def Joins (graph : Graph) (source target : String) : Prop :=
  ∃ edge ∈ graph.edges, edge.source = source ∧ edge.target = target

/-- A path of zero or more edges leads from one id to another. -/
def Leads (graph : Graph) : String → String → Prop := ReflTransGen graph.Joins

section Closures

variable (graph : Graph)

theorem mem_targets {id other : String} : other ∈ graph.targets id ↔ graph.Joins id other := by
  simp [targets, Joins, and_assoc]

private theorem mem_sources {id other : String} :
    other ∈ graph.sources id ↔ graph.Joins other id := by
  simp only [sources, Joins, List.mem_map, mem_incoming, and_assoc]
  exact exists_congr fun edge => and_congr_right fun _ => and_comm

theorem targets_subset (id : String) : graph.targets id ⊆ graph.edges.map Edge.target :=
  List.map_subset Edge.target ((List.filter_subset_self graph.edges))

theorem sources_subset (id : String) : graph.sources id ⊆ graph.edges.map Edge.source :=
  List.map_subset Edge.source ((List.filter_subset_self graph.edges))

theorem mem_descendants_iff {start id : String} :
    id ∈ graph.descendants start ↔ graph.Leads start id := by
  rw [descendants, mem_reach_iff graph.targets_subset]
  simp only [mem_targets]
  rfl

theorem mem_ancestors_iff {start id : String} :
    id ∈ graph.ancestors start ↔ graph.Leads id start := by
  rw [ancestors, mem_reach_iff graph.sources_subset]
  simp only [mem_sources]
  exact Relation.reflTransGen_swap

/-- A walk ends, and with what the bounded walk gives. -/
theorem drains_reach_iff {next : String → List String} {side : Edge → String} {start : String}
    (along : ∀ id, next id ⊆ graph.edges.map side) {result : List String} :
    Drains next [start] [start] result ↔ result = graph.reach next start := by
  constructor
  · exact fun run => run.unique (reach_drains along)
  · rintro rfl
    exact reach_drains along

/-- The loops that follow the edges which an index lists for an id end, forwards with the
descendants and backwards with the ancestors.  Descendants are the ids that a path leads to,
ancestors those from which a path leads back, each listed once, so that the two are dual. -/
theorem descendants_ancestors_exact (start : String) :
    ((∀ result,
        Drains (fun id => (graph.index.leaving id).map Edge.target) [start] [start] result ↔
          result = graph.descendants start) ∧
      (graph.descendants start).Nodup ∧
      ∀ id, id ∈ graph.descendants start ↔ graph.Leads start id) ∧
    ((∀ result,
        Drains (fun id => (graph.index.entering id).map Edge.source) [start] [start] result ↔
          result = graph.ancestors start) ∧
      (graph.ancestors start).Nodup ∧
      ∀ id, id ∈ graph.ancestors start ↔ graph.Leads id start) ∧
    ∀ id, id ∈ graph.descendants start ↔ start ∈ graph.ancestors id := by
  have forwards : (fun id => (graph.index.leaving id).map Edge.target) = graph.targets :=
    funext fun id => congrArg _ (graph.index_leaving id)
  have backwards : (fun id => (graph.index.entering id).map Edge.source) = graph.sources :=
    funext fun id => congrArg _ (graph.index_entering id)
  rw [forwards, backwards]
  refine ⟨⟨?_, ?_, ?_⟩, ⟨?_, ?_, ?_⟩, ?_⟩
  · exact fun result => graph.drains_reach_iff graph.targets_subset
  · exact (reach_walks graph.targets_subset).distinct
  · exact fun id => graph.mem_descendants_iff
  · exact fun result => graph.drains_reach_iff graph.sources_subset
  · exact (reach_walks graph.sources_subset).distinct
  · exact fun id => graph.mem_ancestors_iff
  · exact fun id => graph.mem_descendants_iff.trans graph.mem_ancestors_iff.symm

end Closures

end WorkflowLint.Graph
