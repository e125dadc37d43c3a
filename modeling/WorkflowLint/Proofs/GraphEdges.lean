import WorkflowLint.Proofs.GraphNodes

/-!
Contract: the edges of the graph of a workflow.

`linkSites` lists the places of a document's connections where a link refers to something, in the
order of the document.  `IsEdgeOf` says what the edge of such a place is: which nodes it joins, and on
which outcome it is followed.  The edges of an outline are those of the listed places, one by one.

A label stands for the last node that has it as its id or name.  The type of a source is that of the
last node with the id that its label stands for.
-/

set_option autoImplicit false

namespace WorkflowLint.Document

open Listing
open Value (LinkAt reference filledLinks)

/-! ## Last nodes -/

/-- The item is the last one of a list with a property. -/
def IsLast {α : Type} (property : α → Prop) (items : List α) (item : α) : Prop :=
  ∃ before after, items = before ++ item :: after ∧ property item ∧
    ∀ other ∈ after, ¬ property other

section LastItem

variable {α : Type} {property : α → Prop} {items : List α}

theorem IsLast.mem {item : α} (last : IsLast property items item) : item ∈ items := by
  obtain ⟨before, after, split, _⟩ := last
  rw [split]
  simp

theorem IsLast.holds {item : α} (last : IsLast property items item) : property item := by
  obtain ⟨_, _, _, own, _⟩ := last
  exact own

theorem IsLast.congr {other : α → Prop} {item : α}
    (same : ∀ item ∈ items, property item ↔ other item) (last : IsLast property items item) :
    IsLast other items item := by
  have own := (same item last.mem).mp last.holds
  obtain ⟨before, after, split, _, none⟩ := last
  refine ⟨before, after, split, own, ?_⟩
  intro later member
  have listed : later ∈ items := by simp [split, member]
  exact fun has => none later member ((same later listed).mpr has)

/-- A search from the end finds the last item. -/
theorem find?_reverse_eq_some_iff {test : α → Bool} {item : α} :
    items.reverse.find? test = some item ↔ IsLast (fun item => test item = true) items item := by
  rw [List.find?_eq_some_iff_append]
  constructor
  · intro found
    obtain ⟨passes, after, before, split, others⟩ := found
    refine ⟨before.reverse, after.reverse, ?_, passes, ?_⟩
    · have reversed := congrArg List.reverse split
      simpa using reversed
    · intro other member
      simpa using others other (List.mem_reverse.mp member)
  · intro last
    obtain ⟨before, after, split, passes, others⟩ := last
    refine ⟨passes, after.reverse, before.reverse, by simp [split], ?_⟩
    intro other member
    simpa using others other (List.mem_reverse.mp member)

/-- If an item has a property, there is a last one. -/
theorem exists_isLast {item : α} (member : item ∈ items) (own : property item) :
    ∃ last, IsLast property items last := by
  classical
  cases found : items.reverse.find? fun item => decide (property item) with
  | none =>
      have fails := List.find?_eq_none.mp found item (List.mem_reverse.mpr member)
      simp [own] at fails
  | some last =>
      exact ⟨last, by simpa using find?_reverse_eq_some_iff.mp found⟩

theorem IsLast.unique {left right : α} (leftLast : IsLast property items left)
    (rightLast : IsLast property items right) : left = right := by
  classical
  have leftFound : items.reverse.find? (fun item => decide (property item)) = some left :=
    find?_reverse_eq_some_iff.mpr (by simpa using leftLast)
  have rightFound : items.reverse.find? (fun item => decide (property item)) = some right :=
    find?_reverse_eq_some_iff.mpr (by simpa using rightLast)
  exact Option.some.inj (leftFound.symm.trans rightFound)

end LastItem

/-- A label stands for an id: that of the last node whose id or name it is. -/
def Resolves (nodes : List Node) (label id : String) : Prop :=
  ∃ node, IsLast (fun node : Node => node.id = label ∨ node.name = some label) nodes node ∧
    node.id = id

section Resolution

variable {nodes : List Node}

/-- A label of a node stands for an id. -/
theorem exists_resolves {label : String} {node : Node} (member : node ∈ nodes)
    (labelled : node.id = label ∨ node.name = some label) : ∃ id, Resolves nodes label id := by
  obtain ⟨last, isLast⟩ :=
    @exists_isLast Node (fun node => node.id = label ∨ node.name = some label) nodes node member
      labelled
  exact ⟨last.id, last, isLast, rfl⟩

theorem find?_reverse_ofNode (test : OutlineNode → Bool) :
    (nodes.map OutlineNode.ofNode).reverse.find? test =
      (nodes.reverse.find? fun node => test (.ofNode node)).map .ofNode := by
  rw [← List.map_reverse, List.find?_map]
  rfl

private theorem isAmong_labels_iff {node : Node} {label : String} (filled : node.name ≠ some "") :
    isAmong (.str label) (OutlineNode.ofNode node).labels = true ↔
      node.id = label ∨ node.name = some label := by
  rw [isAmong_str_iff, mem_labels_ofNode]
  constructor
  · intro isLabel
    rcases isLabel with isId | ⟨name, named, _, isName⟩
    · cases isId
      exact .inl rfl
    · cases isName
      exact .inr named
  · intro isLabel
    rcases isLabel with isId | named
    · exact .inl (congrArg Value.str isId.symm)
    · refine .inr ⟨label, named, ?_, rfl⟩
      intro empty
      exact filled (empty ▸ named)

/-- In an outline a label resolves to the id that it stands for. -/
theorem resolve_eq {label id : String} (filled : ∀ node ∈ nodes, node.name ≠ some "")
    (resolves : Resolves nodes label id) :
    resolve (nodes.map .ofNode) (.str label) = .str id := by
  obtain ⟨node, last, equal⟩ := resolves
  have found : nodes.reverse.find?
      (fun node => isAmong (.str label) (OutlineNode.ofNode node).labels) = some node := by
    rw [find?_reverse_eq_some_iff]
    exact last.congr fun node member => (isAmong_labels_iff (filled node member)).symm
  rw [resolve, find?_reverse_ofNode, found, ← equal]
  rfl

/-- The last node with an id can fail. -/
def CanFail (nodes : List Node) (id : String) : Prop :=
  ∃ node, IsLast (fun node : Node => node.id = id) nodes node ∧ isErrorProne node.type = true

private theorem typeOf?_eq (id : String) :
    typeOf? (nodes.map .ofNode) (.str id) =
      (nodes.reverse.find? fun node => decide (node.id = id)).map fun node => .str node.type := by
  have sameTest : (fun node : Node => (Value.str id).same (OutlineNode.ofNode node).id) =
      fun node => decide (node.id = id) := by
    funext node
    rw [Bool.eq_iff_iff, Value.same_str_iff, decide_eq_true_iff]
    simp [OutlineNode.ofNode]
  rw [typeOf?, find?_reverse_ofNode, sameTest, Option.map_map]
  rfl

/-- The type of an id is a text, and it is the type of a node that can fail exactly when the last node
with the id can. -/
theorem typeText_typeOf? (id : String) :
    ∃ type, typeText (typeOf? (nodes.map .ofNode) (.str id)) = .ok type ∧
      (type.any isErrorProne = true ↔ CanFail nodes id) := by
  rw [typeOf?_eq]
  cases found : nodes.reverse.find? fun node => decide (node.id = id) with
  | none =>
      refine ⟨none, rfl, ?_⟩
      simp only [Option.any_none, Bool.false_eq_true, false_iff]
      intro canFail
      obtain ⟨node, last, _⟩ := canFail
      have absent := List.find?_eq_none.mp found node (List.mem_reverse.mpr last.mem)
      simp [last.holds] at absent
  | some node =>
      have last : IsLast (fun node : Node => node.id = id) nodes node := by
        simpa using find?_reverse_eq_some_iff.mp found
      refine ⟨some node.type, rfl, ?_⟩
      rw [Option.any_some]
      constructor
      · exact fun prone => ⟨node, last, prone⟩
      · intro canFail
        obtain ⟨other, otherLast, prone⟩ := canFail
        rw [last.unique otherLast]
        exact prone

private theorem ofSlot_main (index : Nat) (type : Option String) :
    Outcome.ofSlot "main" (some (index + 1)) type =
      if type.any isErrorProne then .error else .success := by
  have positive : (0 : Int) < index + 1 := by omega
  cases type <;> simp [Outcome.ofSlot, positive]

/-- Without a slot the channel alone decides. -/
theorem ofSlot_channel (name : String) :
    (Outcome.ofSlot name none none = .error ↔ name = "error") ∧
      (Outcome.ofSlot name none none = .timeout ↔ name = "timeout") := by
  by_cases isError : name = "error"
  · simp [Outcome.ofSlot, isError]
  · by_cases isTimeout : name = "timeout"
    · simp [Outcome.ofSlot, isTimeout]
    · simp [Outcome.ofSlot, isError, isTimeout]

/-- The links in a slot are followed on failure when they are in the error channel, or in a further
output of the main channel of a source that can fail. -/
theorem slotOutcome_eq_ok {key id : String}
    (resolved : resolve (nodes.map .ofNode) (.str key) = .str id) (channel : Value)
    (slot : Option Nat) :
    ∃ outcome, slotOutcome (nodes.map .ofNode) (.str key) channel slot = .ok outcome ∧
      (outcome = .error ↔
        channel = .str "error" ∨
          channel = .str "main" ∧ (∃ index, slot = some (index + 1)) ∧ CanFail nodes id) ∧
      (outcome = .timeout ↔ channel = .str "timeout") := by
  unfold slotOutcome
  split
  next index =>
    obtain ⟨type, typed, prone_iff⟩ := @typeText_typeOf? nodes id
    refine ⟨if type.any isErrorProne then .error else .success, ?_, ?_, ?_⟩
    · rw [resolved, typed, ← ofSlot_main index type]
      rfl
    · rw [← prone_iff]
      simp
    · split <;> simp
  next name notMain =>
    have notFurther : ¬ (name = "main" ∧ ∃ index, slot = some (index + 1)) := by
      intro further
      obtain ⟨isMain, index, isFurther⟩ := further
      exact notMain index isFurther isMain
    refine ⟨Outcome.ofSlot name none none, rfl, ?_, ?_⟩
    · rw [(ofSlot_channel name).1]
      simp only [Value.str.injEq]
      tauto
    · rw [(ofSlot_channel name).2, Value.str.injEq]
  next notText _ =>
    refine ⟨.success, rfl, ?_, ?_⟩
    · simp only [reduceCtorEq, false_iff]
      intro named
      rcases named with isError | ⟨isMain, _⟩
      · exact notText "error" isError
      · exact notText "main" isMain
    · simp only [reduceCtorEq, false_iff]
      exact notText "timeout"

end Resolution

/-! ## Where links stand in connections -/

/-- A link of the connections of a document, with what stands above it. -/
structure LinkSite where
  /-- The key of the source. -/
  key : Value
  /-- The channel under the source, and its value. -/
  channel : Value
  value : Value
  /-- The way from the value of the channel to the link. -/
  way : List Nat
  link : Entries

/-- The output slot of a link; only a list has slots. -/
def LinkSite.slot? (site : LinkSite) : Option Nat :=
  match site.value with
  | .list _ => site.way.head?
  | _ => none

/-- A link stands at a place of connections: the index of its source, the index of its channel, and
the way from there. -/
inductive StandsAt (connections : Entries) : List Nat → LinkSite → Prop where
  | intro {sourceIndex channelIndex : Nat} {key channel value : Value} {channels : Entries}
      {way : List Nat} {link : Entries}
      (source : connections[sourceIndex]? = some (key, .map channels))
      (under : channels[channelIndex]? = some (channel, value))
      (stands : LinkAt value way link) :
      StandsAt connections (sourceIndex :: channelIndex :: way) ⟨key, channel, value, way, link⟩

/-- The links under a channel that refer to something, with their places. -/
def channelSites (key : Value) (entry : Value × Value) : List (List Nat × LinkSite) :=
  (filledLinks entry.2).map fun found =>
    (found.1, ⟨key, entry.1, entry.2, found.1, found.2⟩)

/-- The links under a source that refer to something, with their places. -/
def sourceSites (entry : Value × Value) : List (List Nat × LinkSite) :=
  match entry.2 with
  | .map channels => numbered 0 (channelSites entry.1) channels
  | _ => []

/-- The links of connections that refer to something, with their places. -/
def linkSites (connections : Entries) : List (List Nat × LinkSite) :=
  numbered 0 sourceSites connections

theorem sourceSites_ordered (entry : Value × Value) : Ordered (sourceSites entry) := by
  unfold sourceSites
  split
  next channels _ =>
    apply numbered_ordered
    intro channel _
    exact List.pairwise_map.mpr (Value.filledLinks_ordered channel.2)
  next => exact .nil

theorem linkSites_ordered (connections : Entries) : Ordered (linkSites connections) :=
  numbered_ordered 0 fun entry _ => sourceSites_ordered entry

theorem mem_channelSites_iff {key : Value} {entry : Value × Value} {way : List Nat}
    {site : LinkSite} :
    (way, site) ∈ channelSites key entry ↔
      ∃ link, site = ⟨key, entry.1, entry.2, way, link⟩ ∧ LinkAt entry.2 way link ∧
        (reference link).isEmpty = false := by
  rw [channelSites, List.mem_map]
  constructor
  · intro listed
    obtain ⟨⟨foundWay, link⟩, found, equal⟩ := listed
    cases equal
    exact ⟨link, rfl, Value.mem_filledLinks_iff.mp found⟩
  · intro stands
    obtain ⟨link, rfl, found⟩ := stands
    exact ⟨(way, link), Value.mem_filledLinks_iff.mpr found, rfl⟩

/-- Listed are exactly the links that stand somewhere and refer to something. -/
theorem mem_linkSites_iff {connections : Entries} {place : List Nat} {site : LinkSite} :
    (place, site) ∈ linkSites connections ↔
      StandsAt connections place site ∧ (reference site.link).isEmpty = false := by
  rw [linkSites, mem_numbered]
  constructor
  · intro listed
    obtain ⟨sourceIndex, rest, ⟨key, channels⟩, rfl, source, underSource⟩ := listed
    unfold sourceSites at underSource
    split at underSource
    next entries isMap =>
      obtain ⟨channelIndex, way, ⟨channel, value⟩, rfl, under, underChannel⟩ :=
        mem_numbered.mp underSource
      obtain ⟨link, rfl, stands, filled⟩ := mem_channelSites_iff.mp underChannel
      cases isMap
      exact ⟨.intro source under stands, filled⟩
    next => cases underSource
  · intro found
    obtain ⟨standsAt, filled⟩ := found
    cases standsAt with
    | @intro sourceIndex channelIndex key channel value channels way link source under stands =>
        have underChannel : (way, _) ∈ channelSites key (channel, value) :=
          mem_channelSites_iff.mpr ⟨link, rfl, stands, filled⟩
        exact ⟨sourceIndex, channelIndex :: way, (key, .map channels), rfl, source,
          mem_numbered.mpr ⟨channelIndex, way, (channel, value), rfl, under, underChannel⟩⟩

/-! ## The edge of a link -/

/-- The link is on a path of failure: in the error channel, or in a further output of the main channel
of a source that can fail. -/
def LinkSite.OnFailure (nodes : List Node) (source : String) (site : LinkSite) : Prop :=
  site.channel = .str "error" ∨
    site.channel = .str "main" ∧ (∃ index, site.slot? = some (index + 1)) ∧ CanFail nodes source

/-- The edge of a link in a graph with these nodes: from the node that the key of its source stands
for to the node that the link refers to.  It is followed on failure, on a time limit, or otherwise on
success. -/
structure IsEdgeOf (nodes : List Node) (site : LinkSite) (edge : Edge) : Prop where
  source : ∃ key, site.key = .str key ∧ Resolves nodes key edge.source
  target : ∃ label, reference site.link = .str label ∧ Resolves nodes label edge.target
  error_iff : edge.outcome = .error ↔ site.OnFailure nodes edge.source
  timeout_iff : edge.outcome = .timeout ↔ site.channel = .str "timeout"

theorem Resolves.unique {nodes : List Node} {label left right : String}
    (leftResolves : Resolves nodes label left) (rightResolves : Resolves nodes label right) :
    left = right := by
  obtain ⟨leftNode, leftLast, leftId⟩ := leftResolves
  obtain ⟨rightNode, rightLast, rightId⟩ := rightResolves
  rw [← leftId, ← rightId, leftLast.unique rightLast]

/-- A link has one edge only. -/
theorem IsEdgeOf.unique {nodes : List Node} {site : LinkSite} {left right : Edge}
    (leftIs : IsEdgeOf nodes site left) (rightIs : IsEdgeOf nodes site right) : left = right := by
  have sameSource : left.source = right.source := by
    obtain ⟨leftKey, leftIsKey, leftResolves⟩ := leftIs.source
    obtain ⟨rightKey, rightIsKey, rightResolves⟩ := rightIs.source
    cases leftIsKey.symm.trans rightIsKey
    exact leftResolves.unique rightResolves
  have sameTarget : left.target = right.target := by
    obtain ⟨leftLabel, leftRefers, leftResolves⟩ := leftIs.target
    obtain ⟨rightLabel, rightRefers, rightResolves⟩ := rightIs.target
    cases leftRefers.symm.trans rightRefers
    exact leftResolves.unique rightResolves
  have sameOutcome : left.outcome = right.outcome := by
    have sameError : left.outcome = .error ↔ right.outcome = .error := by
      rw [leftIs.error_iff, rightIs.error_iff, sameSource]
    have sameTimeout : left.outcome = .timeout ↔ right.outcome = .timeout :=
      leftIs.timeout_iff.trans rightIs.timeout_iff.symm
    cases leftOutcome : left.outcome <;> cases rightOutcome : right.outcome <;> simp_all
  obtain ⟨_, _, _⟩ := left
  obtain ⟨_, _, _⟩ := right
  simp_all

/-- The edge of an outline is the edge of a link, when it is taken as an edge of a graph. -/
def Draws (nodes : List Node) (site : LinkSite) (drawn : OutlineEdge) : Prop :=
  ∃ edge, drawn.toEdge? = some edge ∧ IsEdgeOf nodes site edge

theorem linkReferences_eq (entry : Value) :
    linkReferences entry = (filledLinks entry).map fun found => reference found.2 := by
  rw [linkReferences, ← Value.map_snd_placedLinks, List.map_map, List.filter_map]
  rfl

section Drawing

variable {nodes : List Node} (filled : ∀ node ∈ nodes, node.name ≠ some "")
include filled

/-- The edge that an outline gives a link is the edge of the link. -/
theorem draws_of_resolves {site : LinkSite} {key source label target : String} {outcome : Outcome}
    (isKey : site.key = .str key) (sourceResolves : Resolves nodes key source)
    (refers : reference site.link = .str label) (targetResolves : Resolves nodes label target)
    (error_iff : outcome = .error ↔ site.OnFailure nodes source)
    (timeout_iff : outcome = .timeout ↔ site.channel = .str "timeout") :
    Draws nodes site
      ⟨resolve (nodes.map .ofNode) (.str key), resolve (nodes.map .ofNode) (reference site.link),
        outcome⟩ := by
  refine ⟨⟨source, target, outcome⟩, ?_, ?_⟩
  · rw [refers, resolve_eq filled sourceResolves, resolve_eq filled targetResolves]
    rfl
  · exact
      { source := ⟨key, isKey, sourceResolves⟩
        target := ⟨label, refers, targetResolves⟩
        error_iff := error_iff
        timeout_iff := timeout_iff }

/-- The edges of a slot are those of its links.  The links stand in the value of the channel, below
the way that leads to the slot. -/
theorem slotEdges_draw {key source : String} (resolves : Resolves nodes key source)
    {channel value entry : Value} {slot : Option Nat} (lead : List Nat)
    (slotted : ∀ way link,
      LinkSite.slot? ⟨.str key, channel, value, lead ++ way, link⟩ = slot)
    (known : ∀ found ∈ filledLinks entry,
      ∃ label id, reference found.2 = .str label ∧ Resolves nodes label id) :
    ∃ edges, slotEdges (nodes.map .ofNode) (.str key) channel slot entry = .ok edges ∧
      List.Forall₂
        (fun found edge => Draws nodes ⟨.str key, channel, value, lead ++ found.1, found.2⟩ edge)
        (filledLinks entry) edges := by
  obtain ⟨outcome, decided, error_iff, timeout_iff⟩ :=
    slotOutcome_eq_ok (resolve_eq filled resolves) channel slot
  refine ⟨(linkReferences entry).map fun target =>
    ⟨resolve (nodes.map .ofNode) (.str key), resolve (nodes.map .ofNode) target, outcome⟩, ?_, ?_⟩
  · rw [slotEdges, decided]
    rfl
  · rw [linkReferences_eq, List.map_map, List.forall₂_map_right_iff, List.forall₂_same]
    intro found member
    obtain ⟨label, id, refers, targetResolves⟩ := known found member
    refine draws_of_resolves filled rfl resolves refers targetResolves ?_ timeout_iff
    rw [error_iff, LinkSite.OnFailure, slotted]

/-- The edges of a channel are those of the links under it. -/
theorem channelEdges_draw {key source : String} (resolves : Resolves nodes key source)
    {channel value : Value}
    (known : ∀ found ∈ filledLinks value,
      ∃ label id, reference found.2 = .str label ∧ Resolves nodes label id) :
    ∃ edges, channelEdges (nodes.map .ofNode) (.str key) channel value = .ok edges ∧
      List.Forall₂ (fun found edge => Draws nodes found.2 edge)
        (channelSites (.str key) (channel, value)) edges := by
  unfold channelEdges channelSites
  simp only [List.forall₂_map_left_iff]
  split
  next items =>
    -- The slots of a list are numbered as its items are, empty ones included.
    have each : ∀ slot ∈ items.zipIdx,
        ∃ edges, slotEdges (nodes.map .ofNode) (.str key) channel (some slot.2) slot.1 = .ok edges ∧
          List.Forall₂
            (fun found edge =>
              Draws nodes ⟨.str key, channel, .list items, found.1, found.2⟩ edge)
            ((filledLinks slot.1).map (under slot.2)) edges := by
      intro slot member
      have atIndex : items[slot.2]? = some slot.1 := List.mem_zipIdx_iff_getElem?.mp member
      simp only [List.forall₂_map_left_iff]
      refine slotEdges_draw filled resolves [slot.2] (fun _ _ => rfl) ?_
      intro found inSlot
      refine known (slot.2 :: found.1, found.2) ?_
      rw [Value.filledLinks_list, mem_numbered]
      exact ⟨slot.2, found.1, slot.1, rfl, atIndex, inSlot⟩
    obtain ⟨slots, stepped, related⟩ := Sequence.mapM_flatten_related each
    refine ⟨slots.flatten, ?_, ?_⟩
    · rw [Sequence.bind_eq_ok_iff]
      exact ⟨slots, stepped, rfl⟩
    · rw [Value.filledLinks_list]
      exact related
  next notList =>
    refine slotEdges_draw filled resolves [] ?_ known
    intro way link
    unfold LinkSite.slot?
    split
    next items isList => exact (notList items isList).elim
    next => rfl

omit filled in
/-- Edges gathered entry by entry from a mapping, which may be empty. -/
theorem entriesEdges_draw {step : Value × Value → Except Rejection (List OutlineEdge)}
    {sites : Value × Value → List (List Nat × LinkSite)} {entries : Entries}
    (each : ∀ entry ∈ entries, ∃ edges, step entry = .ok edges ∧
      List.Forall₂ (fun found edge => Draws nodes found.2 edge) (sites entry) edges) :
    ∃ edges,
      (if (Value.map entries).isEmpty then .ok []
        else do
          let entries ← entriesOf (.map entries)
          let edges ← entries.mapM step
          return edges.flatten) = .ok edges ∧
      List.Forall₂ (fun found edge => Draws nodes found.2 edge) (numbered 0 sites entries) edges := by
  obtain ⟨edges, stepped, related⟩ := mapM_numbered_related 0 each
  cases entries with
  | nil => exact ⟨[], rfl, .nil⟩
  | cons first rest =>
      refine ⟨edges.flatten, ?_, related⟩
      rw [if_neg (by simp [Value.isEmpty])]
      exact Sequence.bind_eq_ok_iff.mpr ⟨first :: rest, rfl,
        Sequence.bind_eq_ok_iff.mpr ⟨edges, stepped, rfl⟩⟩

/-- The edges under a source are those of the links under its channels. -/
theorem sourceEdges_draw {key source : String} (resolves : Resolves nodes key source)
    {channels : Value} (isChannels : IsChannels channels)
    (known : ∀ found ∈ sourceSites (.str key, channels),
      ∃ label id, reference found.2.link = .str label ∧ Resolves nodes label id) :
    ∃ edges, sourceEdges (nodes.map .ofNode) (.str key) channels = .ok edges ∧
      List.Forall₂ (fun found edge => Draws nodes found.2 edge)
        (sourceSites (.str key, channels)) edges := by
  rcases isChannels with rfl | ⟨entries, rfl, _⟩
  · exact ⟨[], rfl, .nil⟩
  · apply entriesEdges_draw
    intro entry member
    apply channelEdges_draw filled resolves
    intro found inChannel
    obtain ⟨index, atIndex⟩ := List.mem_iff_getElem?.mp member
    have stands := Value.mem_filledLinks_iff.mp inChannel
    have listed : (index :: found.1, _) ∈ sourceSites (.str key, .map entries) :=
      mem_numbered.mpr ⟨index, found.1, entry, rfl, atIndex,
        mem_channelSites_iff.mpr ⟨found.2, rfl, stands⟩⟩
    exact known _ listed

/-- The edges of connections are those of their links. -/
theorem outlineEdges_draw {connections : Entries}
    (eachSource : ∀ entry ∈ connections, IsChannels entry.2)
    (sources : ∀ entry ∈ connections, ∃ key id, entry.1 = .str key ∧ Resolves nodes key id)
    (targets : ∀ found ∈ linkSites connections,
      ∃ label id, reference found.2.link = .str label ∧ Resolves nodes label id) :
    ∃ edges, outlineEdges (nodes.map .ofNode) (.map connections) = .ok edges ∧
      List.Forall₂ (fun found edge => Draws nodes found.2 edge) (linkSites connections) edges := by
  apply entriesEdges_draw
  intro entry member
  obtain ⟨key, source, isKey, resolves⟩ := sources entry member
  obtain ⟨index, atIndex⟩ := List.mem_iff_getElem?.mp member
  obtain ⟨_, channels⟩ := entry
  cases isKey
  apply sourceEdges_draw filled resolves (eachSource _ member)
  intro found inSource
  exact targets (under index found) (mem_numbered.mpr
    ⟨index, found.1, (.str key, channels), rfl, atIndex, inSource⟩)

end Drawing

end WorkflowLint.Document
