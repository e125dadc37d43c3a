import WorkflowLint.Proofs.GraphEdges
import Mathlib.Data.List.Basic

/-!
Contract: the links of a channel are the same for the check of references and for the edges.

The check takes the links of a channel value as a whole.  The edges are drawn slot by slot, where only a
list has numbered slots.  Both ways meet the same links in the same order: the mappings with a `node` key
at the ends of all ways through lists and tuples.
-/

set_option autoImplicit false

namespace WorkflowLint.Document

open Listing
open Value (LinkAt reference)

/-- The slots of a channel value: the items of a list with their numbers, or the value as a whole. -/
def slots : Value → List (Option Nat × Value)
  | .list items => items.zipIdx.map fun slot => (some slot.2, slot.1)
  | value => [(none, value)]

private theorem slots_of_not_list {value : Value} (notList : ∀ items, value ≠ .list items) :
    slots value = [(none, value)] := by
  unfold slots
  split
  next items => exact absurd rfl (notList items)
  next => rfl

/-- Slot by slot there are the same links as in the value as a whole. -/
theorem flatMap_links_slots (value : Value) :
    (slots value).flatMap (fun slot => slot.2.links) = value.links := by
  unfold slots
  split
  next items =>
    calc (items.zipIdx.map fun slot => (some slot.2, slot.1)).flatMap (fun slot => slot.2.links)
        = items.zipIdx.flatMap (fun slot => slot.1.links) := List.flatMap_map ..
      _ = (items.zipIdx.map Prod.fst).flatMap Value.links := (List.flatMap_map ..).symm
      _ = items.flatMap Value.links := by rw [List.zipIdx_map_fst]
      _ = (Value.list items).links := by rw [Value.links, Value.linksOfItems_eq_flatMap]
  next => exact List.flatMap_singleton _ _

/-- An empty value has no links. -/
theorem links_of_isEmpty {value : Value} (isEmpty : value.isEmpty = true) : value.links = [] := by
  cases value with
  | list items =>
      cases List.isEmpty_iff.mp isEmpty
      rw [Value.links, Value.linksOfItems]
  | tuple items =>
      cases List.isEmpty_iff.mp isEmpty
      rw [Value.links, Value.linksOfItems]
  | map entries =>
      cases List.isEmpty_iff.mp isEmpty
      rfl
  | _ => rfl

/-! ## Links that refer to something -/

/-- The links that refer to something. -/
def referring (links : List Entries) : List Entries :=
  links.filter fun link => !(reference link).isEmpty

theorem linkReferences_eq_map (value : Value) :
    linkReferences value = (referring value.links).map reference :=
  List.filter_map

/-- The references of a channel are checked together, in the order of its links. -/
theorem linkReferences_among {connections channels : Entries} {source channel value : Value}
    (isSource : (source, .map channels) ∈ connections) (isChannel : (channel, value) ∈ channels) :
    linkReferences value <:+: references connections := by
  have inChannels : linkReferences value <:+:
      channels.flatMap fun entry => linkReferences entry.2 :=
    List.infix_of_mem_flatten (List.mem_map.mpr ⟨_, isChannel, rfl⟩)
  have inSource : (source :: channels.flatMap fun entry => linkReferences entry.2) <:+:
      references connections :=
    List.infix_of_mem_flatten (List.mem_map.mpr ⟨_, isSource, rfl⟩)
  exact (List.infix_cons inChannels).trans inSource

/-! ## Edges of a channel -/

section Drawing

variable (nodes : List OutlineNode) (source : Value)

/-- The edges are drawn from the links one by one, from the source to what a link refers to. -/
def DrawnFrom (links : List Entries) (edges : List OutlineEdge) : Prop :=
  List.Forall₂
    (fun link edge =>
      edge.source = resolve nodes source ∧ edge.target = resolve nodes (reference link))
    links edges

variable (channel : Value)

/-- The edges of a channel are drawn slot by slot. -/
theorem channelEdges_eq (value : Value) :
    channelEdges nodes source channel value = do
      let edges ← (slots value).mapM fun slot => slotEdges nodes source channel slot.1 slot.2
      return edges.flatten := by
  unfold channelEdges
  split
  next items =>
    rw [slots, List.mapM_map]
    rfl
  next notList =>
    rw [slots_of_not_list notList, List.mapM_cons, List.mapM_nil]
    cases slotEdges nodes source channel none value with
    | error rejection => rfl
    | ok edges => exact congrArg Except.ok (List.append_nil edges).symm

/-- A slot has edges exactly when its links have an outcome, and they are drawn from its links. -/
theorem slotEdges_of_outcome {slot : Option Nat} {outcome : Outcome}
    (decided : slotOutcome nodes source channel slot = .ok outcome) (entry : Value) :
    ∃ edges, slotEdges nodes source channel slot entry = .ok edges ∧
      DrawnFrom nodes source (referring entry.links) edges := by
  refine ⟨(linkReferences entry).map fun target =>
    ⟨resolve nodes source, resolve nodes target, outcome⟩, ?_, ?_⟩
  · rw [slotEdges, decided]
    rfl
  · rw [DrawnFrom, linkReferences_eq_map, List.map_map, List.forall₂_map_right_iff,
      List.forall₂_same]
    exact fun link _ => ⟨rfl, rfl⟩

private theorem outcome_of_slotEdges {slot : Option Nat} {entry : Value} {edges : List OutlineEdge}
    (drawn : slotEdges nodes source channel slot entry = .ok edges) :
    ∃ outcome, slotOutcome nodes source channel slot = .ok outcome := by
  obtain ⟨outcome, decided, _⟩ := Sequence.bind_eq_ok_iff.mp drawn
  exact ⟨outcome, decided⟩

/-- When the links of each slot have an outcome, the channel has edges, drawn from its links. -/
theorem channelEdges_of_outcomes {value : Value}
    (decided : ∀ slot ∈ slots value,
      ∃ outcome, slotOutcome nodes source channel slot.1 = .ok outcome) :
    ∃ edges, channelEdges nodes source channel value = .ok edges ∧
      DrawnFrom nodes source (referring value.links) edges := by
  have each : ∀ slot ∈ slots value, ∃ edges,
      slotEdges nodes source channel slot.1 slot.2 = .ok edges ∧
        DrawnFrom nodes source (referring slot.2.links) edges := by
    intro slot member
    obtain ⟨outcome, isOutcome⟩ := decided slot member
    exact slotEdges_of_outcome nodes source channel isOutcome slot.2
  obtain ⟨parts, stepped, drawn⟩ := Sequence.mapM_flatten_related each
  refine ⟨parts.flatten, ?_, ?_⟩
  · rw [channelEdges_eq, stepped]
    rfl
  · rw [← flatMap_links_slots, referring, List.filter_flatMap]
    exact drawn

/-- A channel with edges has an outcome for the links of each slot. -/
theorem outcomes_of_channelEdges {value : Value} {edges : List OutlineEdge}
    (drawn : channelEdges nodes source channel value = .ok edges) :
    ∀ slot ∈ slots value, ∃ outcome, slotOutcome nodes source channel slot.1 = .ok outcome := by
  rw [channelEdges_eq] at drawn
  obtain ⟨parts, stepped, _⟩ := Sequence.bind_eq_ok_iff.mp drawn
  intro slot member
  obtain ⟨part, _, slotDrawn⟩ :=
    Sequence.exists_related_of_mem (Sequence.mapM_eq_ok_iff.mp stepped).flip member
  exact outcome_of_slotEdges nodes source channel slotDrawn

end Drawing

/-- Edges gathered entry by entry from a mapping hold those of each entry together. -/
theorem edges_of_mem_entries {step : Value × Value → Except Rejection (List OutlineEdge)}
    {entries : Entries} {entry : Value × Value} {all : List OutlineEdge} (member : entry ∈ entries)
    (drawn :
      (if (Value.map entries).isEmpty then .ok []
        else do
          let entries ← entriesOf (.map entries)
          let edges ← entries.mapM step
          return edges.flatten) = .ok all) :
    ∃ edges, step entry = .ok edges ∧ edges <:+: all := by
  have notEmpty : ¬ (Value.map entries).isEmpty = true := fun isEmpty =>
    List.ne_nil_of_mem member (List.isEmpty_iff.mp isEmpty)
  rw [if_neg notEmpty] at drawn
  obtain ⟨_, isEntries, gathered⟩ := Sequence.bind_eq_ok_iff.mp drawn
  cases isEntries
  obtain ⟨parts, stepped, isFlat⟩ := Sequence.bind_eq_ok_iff.mp gathered
  cases isFlat
  obtain ⟨edges, isPart, ownStepped⟩ :=
    Sequence.exists_related_of_mem (Sequence.mapM_eq_ok_iff.mp stepped).flip member
  exact ⟨edges, ownStepped, List.infix_of_mem_flatten isPart⟩

/-- The edges of a channel stand together among those of all connections. -/
theorem channelEdges_among {nodes : List OutlineNode} {connections channels : Entries}
    {source channel value : Value} {all : List OutlineEdge}
    (isSource : (source, .map channels) ∈ connections) (isChannel : (channel, value) ∈ channels)
    (drawn : outlineEdges nodes (.map connections) = .ok all) :
    ∃ edges, channelEdges nodes source channel value = .ok edges ∧ edges <:+: all := by
  obtain ⟨ofSource, sourceDrawn, inAll⟩ := edges_of_mem_entries isSource drawn
  obtain ⟨edges, channelDrawn, inSource⟩ := edges_of_mem_entries isChannel sourceDrawn
  exact ⟨edges, channelDrawn, inSource.trans inAll⟩

/-! ## One list of links -/

/-- The links of a channel value are the same list slot by slot and as a whole, and nothing is lost when
empty values are left out.  They are the mappings with a `node` key that stand at the ends of all ways
through lists and tuples, in the order of the ways.  Wherever the value is a channel of connections, the
references of these links are checked together and in this order, and the edges of the channel stand
together among all edges.  They are drawn, link by link, from those that refer to something; no link can
prevent that, only a slot without an outcome. -/
theorem channel_links_checked_and_drawn (value : Value) :
    ((slots value).flatMap fun slot => slot.2.links) = value.links ∧
      (value.isEmpty = true → value.links = []) ∧
      (∃ placed, Ordered placed ∧ (∀ way link, (way, link) ∈ placed ↔ LinkAt value way link) ∧
        value.links = placed.map (·.2)) ∧
      (∀ connections source channels channel,
        (source, .map channels) ∈ connections → (channel, value) ∈ channels →
          (referring value.links).map reference <:+: references connections ∧
            ∀ nodes all, outlineEdges nodes (.map connections) = .ok all →
              ∃ edges, channelEdges nodes source channel value = .ok edges ∧ edges <:+: all) ∧
      ∀ nodes source channel,
        ((∃ edges, channelEdges nodes source channel value = .ok edges) ↔
            ∀ slot ∈ slots value,
              ∃ outcome, slotOutcome nodes source channel slot.1 = .ok outcome) ∧
          ∀ edges, channelEdges nodes source channel value = .ok edges →
            DrawnFrom nodes source (referring value.links) edges := by
  refine ⟨flatMap_links_slots value, links_of_isEmpty, ?_, ?_, ?_⟩
  · exact ⟨Value.placedLinks value, Value.placedLinks_ordered value,
      fun way link => Value.mem_placedLinks_iff, (Value.map_snd_placedLinks value).symm⟩
  · intro connections source channels channel isSource isChannel
    refine ⟨?_, fun nodes all drawn => channelEdges_among isSource isChannel drawn⟩
    rw [← linkReferences_eq_map]
    exact linkReferences_among isSource isChannel
  · intro nodes source channel
    refine ⟨⟨?_, ?_⟩, ?_⟩
    · rintro ⟨edges, drawn⟩
      exact outcomes_of_channelEdges nodes source channel drawn
    · intro decided
      obtain ⟨edges, drawn, _⟩ := channelEdges_of_outcomes nodes source channel decided
      exact ⟨edges, drawn⟩
    · intro edges drawn
      have decided := outcomes_of_channelEdges nodes source channel drawn
      obtain ⟨others, othersDrawn, fromLinks⟩ :=
        channelEdges_of_outcomes nodes source channel decided
      cases drawn.symm.trans othersDrawn
      exact fromLinks

end WorkflowLint.Document
