import WorkflowLint.Yaml.Node
import WorkflowLint.Proofs.YamlScanning

/-!
Contract: where making a node from tokens can stop.

The grammar refuses tokens with a fault of form.  Where the tokens end early it passes on the fault that
ended them.  An alias inside the node of its own anchor is declined, and the tokens then hold both.  No
step changes the fault at the end or brings in a token, so a text gives a node, or stops where its scanner
may stop, or is declined.  Main statement: `ofText_ends`.
-/

set_option autoImplicit false

namespace WorkflowLint.Yaml

open Sequence (Ends)

/-- What a text holds that reading its root declines. -/
inductive Declines (dialect : Dialect) (text : List Char) : Declined → Prop where
  | halfPair (escape : HalfEscape text) : Declines dialect text .halfPair
  | selfContained {name : String} (anchored : .anchor name ∈ (tokens text).1)
      (referred : .alias name ∈ (tokens text).1) : Declines dialect text .selfContained
  | nesting (deep : nestingLimit < 2 * nesting 0 (tokens text).1) : Declines dialect text .nesting
  | height {root : Node}
      (isRoot : Node.ofTokens dialect (tokens text).1 (tokens text).2 = .ok (some root))
      (high : nestingLimit < root.height) : Declines dialect text .nesting

/-- Where making a node may stop: at a fault of form, at an obstacle of the text, or at content that
is declined. -/
inductive NodeFault (dialect : Dialect) (text : List Char) : Fault → Prop where
  | form : NodeFault dialect text .unreadable
  | obstacle {fault : Fault} (met : ScanObstacle text fault) : NodeFault dialect text fault
  | declined {content : Declined} (declines : Declines dialect text content) :
      NodeFault dialect text (.declined content)

theorem ScanFault.node {dialect : Dialect} {text : List Char} {fault : Fault} :
    ScanFault text fault → NodeFault dialect text fault
  | .form => .form
  | .obstacle met => .obstacle met
  | .halfPair escape => .declined (.halfPair escape)

namespace Reading

/-- A reader of the tokens of a text: they end with a fault of the scanner, and the anchors met are
among them. -/
structure ReadsTokens (text : List Char) (reader : NodeReader) : Prop where
  stop : ScanFault text reader.stop
  among : ∀ token ∈ reader.tokens, token ∈ (tokens text).1
  anchored : ∀ entry ∈ reader.anchors, .anchor entry.1 ∈ (tokens text).1

/-- A step stops at most at a fault of its text, gives a good value otherwise, and goes on with a
reader of the same tokens. -/
def Yields (dialect : Dialect) (text : List Char) {α : Type} (good : α → Prop) (step : Reading α) :
    Prop :=
  ∀ reader : NodeReader, ReadsTokens text reader →
    Ends (NodeFault dialect text) (fun read => good read.1 ∧ ReadsTokens text read.2) (step reader)

/-- A step that stops at most at a fault of its text. -/
abbrev Stops (dialect : Dialect) (text : List Char) {α : Type} (step : Reading α) : Prop :=
  Yields dialect text (fun _ => True) step

variable {dialect : Dialect} {text : List Char} {α β : Type}

theorem Yields.bind {good : α → Prop} {final : β → Prop} {first : Reading α}
    {next : α → Reading β} (firstYields : Yields dialect text good first)
    (nextYields : ∀ value, good value → Yields dialect text final (next value)) :
    Yields dialect text final (first >>= next) := by
  intro reader reads
  exact (firstYields reader reads).bind fun read after =>
    nextYields read.1 after.1 read.2 after.2

theorem Stops.bind {final : β → Prop} {first : Reading α} {next : α → Reading β}
    (firstStops : Stops dialect text first)
    (nextYields : ∀ value, Yields dialect text final (next value)) :
    Yields dialect text final (first >>= next) :=
  Yields.bind firstStops fun value _ => nextYields value

theorem Stops.map {first : Reading α} (firstStops : Stops dialect text first) (change : α → β) :
    Stops dialect text (change <$> first) := by
  intro reader reads
  exact (firstStops reader reads).bind fun read after => after

theorem yields_pure {good : α → Prop} {value : α} (isGood : good value) :
    Yields dialect text good (pure value : Reading α) := by
  intro reader reads
  exact ⟨isGood, reads⟩

theorem stops_pure (value : α) : Stops dialect text (pure value : Reading α) :=
  yields_pure trivial

theorem stops_refuse {good : α → Prop} : Yields dialect text good (refuse : Reading α) := by
  intro reader reads
  exact .form

theorem stops_get {good : α → Prop} {next : NodeReader → Reading α}
    (nextYields : ∀ reader, ReadsTokens text reader → Yields dialect text good (next reader)) :
    Yields dialect text good (get >>= next) := by
  intro reader reads
  exact nextYields reader reads reader reads

theorem peek_yields : Yields dialect text (· ∈ (tokens text).1) peek := by
  refine stops_get fun reader reads => ?_
  split
  · next token others isNext =>
      refine yields_pure (reads.among token ?_)
      rw [isNext]
      exact List.mem_cons_self
  · exact fun _ _ => reads.stop.node

theorem peek_stops : Stops dialect text peek := fun reader reads =>
  (peek_yields reader reads).mono (fun _ => id) fun _ read => ⟨trivial, read.2⟩

theorem drop_stops : Stops dialect text drop := fun _ reads =>
  ⟨trivial, reads.stop, fun token member => reads.among token (List.mem_of_mem_tail member),
    reads.anchored⟩

theorem drop_then_stops {good : α → Prop} {next : Reading α}
    (nextYields : Yields dialect text good next) :
    Yields dialect text good (drop >>= fun _ => next) :=
  drop_stops.bind fun _ => nextYields

/-! ## Properties -/

theorem tagName_stops (tag : TagText) : Stops dialect text (tagName tag) := by
  unfold tagName
  split
  · exact stops_pure _
  · refine stops_get fun reader stop => ?_
    split
    · exact stops_pure _
    · exact stops_refuse

/-- The anchor of a node, if it has one, is a token of the text. -/
def IsAnchor (text : List Char) (anchor : Option String) : Prop :=
  ∀ name ∈ anchor, .anchor name ∈ (tokens text).1

theorem isAnchor_none : IsAnchor text none := fun _ named => nomatch named

theorem anchor?_yields : Yields dialect text (IsAnchor text) anchor? := by
  unfold anchor?
  refine peek_yields.bind fun token isToken => ?_
  split
  · refine drop_then_stops (yields_pure ?_)
    rintro name ⟨⟩
    exact isToken
  · exact yields_pure isAnchor_none

theorem tag?_stops : Stops dialect text tag? := by
  unfold tag?
  refine peek_stops.bind fun token => ?_
  split
  · exact drop_then_stops (stops_pure _)
  · exact stops_pure _

private theorem properties_yields : Yields dialect text (fun props => IsAnchor text props.anchor)
    properties := by
  unfold properties
  refine anchor?_yields.bind fun anchor isAnchor => ?_
  split
  · refine tag?_stops.bind fun tag => ?_
    cases tag with
    | none => exact yields_pure isAnchor
    | some tag =>
        have named : Stops dialect text (some <$> tagName tag) := (tagName_stops tag).map some
        exact named.bind fun _ => yields_pure isAnchor
  · refine tag?_stops.bind fun tag => ?_
    split
    · refine anchor?_yields.bind fun anchor isAnchor => ?_
      exact (tagName_stops _).bind fun name => yields_pure isAnchor
    · exact yields_pure isAnchor_none

variable {anchor : Option String}

theorem enter_stops (isAnchor : IsAnchor text anchor) : Stops dialect text (enter anchor) := by
  cases anchor with
  | none => exact stops_pure ()
  | some name =>
      refine stops_get fun reader reads => ?_
      split
      · exact stops_refuse
      · refine fun _ _ => ⟨trivial, reads.stop, reads.among, ?_⟩
        exact List.forall_mem_cons.mpr ⟨isAnchor name rfl, reads.anchored⟩

theorem bind_stops (isAnchor : IsAnchor text anchor) (node : Node) :
    Stops dialect text (bind anchor node) := by
  cases anchor with
  | none => exact stops_pure node
  | some name =>
      intro reader reads
      refine ⟨trivial, reads.stop, reads.among, ?_⟩
      exact List.forall_mem_cons.mpr ⟨isAnchor name rfl, reads.anchored⟩

/-- An anchor without a node is one of the tokens, so the alias is declined with cause. -/
theorem ofAlias_stops {name : String} (referred : .alias name ∈ (tokens text).1) :
    Stops dialect text (ofAlias name) := by
  refine stops_get fun reader reads => ?_
  split
  · exact stops_pure _
  · next isEntered =>
      obtain ⟨before, after, isList, _⟩ := List.lookup_eq_some_iff.mp isEntered
      have entered : (name, none) ∈ reader.anchors := by
        rw [isList]
        exact List.mem_append_right _ List.mem_cons_self
      exact fun _ _ => .declined (.selfContained (reads.anchored _ entered) referred)
  · exact stops_refuse

theorem scalarTag_stops (written : Option String) (plain : Bool) (read : String) :
    Stops dialect text (scalarTag written plain read) := by
  refine stops_get fun reader stop => ?_
  split
  · exact stops_pure _
  · exact stops_pure _
  · exact stops_pure _

/-! ## Content -/

/-- The readers of nodes and of parts of collections, which call each other, all stop only so. -/
structure NodesStop (dialect : Dialect) (text : List Char) (fuel : Nat) : Prop where
  node (place : Place) : Stops dialect text (node fuel place)
  blockContent (place : Place) {props : Properties} (isAnchor : IsAnchor text props.anchor)
      (token : Token) : Stops dialect text (blockContent fuel place props token)
  nodeOrAbsent (place : Place) : Stops dialect text (nodeOrAbsent fuel place)
  blockItems : Stops dialect text (blockItems fuel)
  indentlessItems : Stops dialect text (indentlessItems fuel)
  valueOrAbsent (place : Place) : Stops dialect text (valueOrAbsent fuel place)
  blockEntries : Stops dialect text (blockEntries fuel)
  flowItems (first : Bool) : Stops dialect text (flowItems fuel first)
  flowEntries (first : Bool) : Stops dialect text (flowEntries fuel first)

private theorem nodesStop_zero : NodesStop dialect text 0 where
  node _ := stops_refuse
  blockContent _ _ _ _ := stops_refuse
  nodeOrAbsent _ := stops_refuse
  blockItems := stops_refuse
  indentlessItems := stops_refuse
  valueOrAbsent _ := stops_refuse
  blockEntries := stops_refuse
  flowItems _ := stops_refuse
  flowEntries _ := stops_refuse

variable {fuel : Nat}

/-- A collection between its anchor and its node. -/
theorem anchored_stops {items : Reading (List α)} (itemsStop : Stops dialect text items)
    (isAnchor : IsAnchor text anchor) (made : List α → Node) :
    Stops dialect text (do enter anchor; let items ← items; bind anchor (made items)) :=
  (enter_stops isAnchor).bind fun _ => itemsStop.bind fun items => bind_stops isAnchor (made items)

theorem anchored_drop_stops {items : Reading (List α)} (itemsStop : Stops dialect text items)
    (isAnchor : IsAnchor text anchor) (made : List α → Node) :
    Stops dialect text (do enter anchor; drop; let items ← items; bind anchor (made items)) :=
  (enter_stops isAnchor).bind fun _ =>
    drop_then_stops (itemsStop.bind fun items => bind_stops isAnchor (made items))

private theorem node_stops (nodes : NodesStop dialect text fuel) (place : Place) :
    Stops dialect text (node (fuel + 1) place) := by
  unfold node
  refine peek_yields.bind fun token isToken => ?_
  split
  · exact drop_then_stops (ofAlias_stops isToken)
  · refine properties_yields.bind fun props isAnchor => peek_stops.bind fun content => ?_
    split
    · refine drop_then_stops ((enter_stops isAnchor).bind fun _ => ?_)
      exact (scalarTag_stops _ _ _).bind fun tag => bind_stops isAnchor _
    · exact anchored_drop_stops (nodes.flowItems true) isAnchor _
    · exact anchored_drop_stops (nodes.flowEntries true) isAnchor _
    · exact nodes.blockContent place isAnchor content

private theorem blockContent_stops (nodes : NodesStop dialect text fuel) (place : Place)
    {props : Properties} (isAnchor : IsAnchor text props.anchor) (token : Token) :
    Stops dialect text (blockContent (fuel + 1) place props token) := by
  unfold blockContent
  split
  · exact anchored_stops nodes.indentlessItems isAnchor _
  · exact anchored_drop_stops nodes.blockItems isAnchor _
  · exact anchored_drop_stops nodes.blockEntries isAnchor _
  · split
    · exact stops_refuse
    · refine (enter_stops isAnchor).bind fun _ => ?_
      exact (scalarTag_stops _ _ _).bind fun tag => bind_stops isAnchor _

private theorem nodeOrAbsent_stops (nodes : NodesStop dialect text fuel) (place : Place) :
    Stops dialect text (nodeOrAbsent (fuel + 1) place) := by
  unfold nodeOrAbsent
  refine peek_stops.bind fun token => ?_
  split
  · exact stops_pure _
  · exact nodes.node place

private theorem blockItems_stops (nodes : NodesStop dialect text fuel) : Stops dialect text
    (blockItems (fuel + 1)) := by
  unfold blockItems
  refine peek_stops.bind fun token => ?_
  split
  · refine drop_then_stops ((nodes.nodeOrAbsent _).bind fun item => ?_)
    exact nodes.blockItems.bind fun items => stops_pure _
  · exact drop_then_stops (stops_pure _)
  · exact stops_refuse

private theorem indentlessItems_stops (nodes : NodesStop dialect text fuel) :
    Stops dialect text (indentlessItems (fuel + 1)) := by
  unfold indentlessItems
  refine peek_stops.bind fun token => ?_
  split
  · refine drop_then_stops ((nodes.nodeOrAbsent _).bind fun item => ?_)
    exact nodes.indentlessItems.bind fun items => stops_pure _
  · exact stops_pure _

private theorem valueOrAbsent_stops (nodes : NodesStop dialect text fuel) (place : Place) :
    Stops dialect text (valueOrAbsent (fuel + 1) place) := by
  unfold valueOrAbsent
  refine peek_stops.bind fun token => ?_
  split
  · exact drop_then_stops (nodes.nodeOrAbsent place)
  · exact stops_pure _

/-- A key and its value, in front of further parts. -/
theorem keyed_stops (nodes : NodesStop dialect text fuel) (keyPlace valuePlace : Place)
    {rest : Reading (List α)} (restStops : Stops dialect text rest) (made : Node → Node → α) :
    Stops dialect text (do
      let key ← nodeOrAbsent fuel keyPlace
      let value ← valueOrAbsent fuel valuePlace
      return made key value :: (← rest)) :=
  (nodes.nodeOrAbsent keyPlace).bind fun _ => (nodes.valueOrAbsent valuePlace).bind fun _ =>
    restStops.bind fun _ => stops_pure _

private theorem blockEntries_stops (nodes : NodesStop dialect text fuel) :
    Stops dialect text (blockEntries (fuel + 1)) := by
  unfold blockEntries
  refine peek_stops.bind fun token => ?_
  split
  · exact drop_then_stops (keyed_stops nodes _ _ nodes.blockEntries Prod.mk)
  · exact drop_then_stops (stops_pure _)
  · exact stops_refuse

private theorem flowItems_stops (nodes : NodesStop dialect text fuel) (first : Bool) :
    Stops dialect text (flowItems (fuel + 1) first) := by
  unfold flowItems
  refine peek_stops.bind fun token => ?_
  split
  · exact drop_then_stops (stops_pure _)
  · extract_lets onItem
    have onItemStops (done : PUnit) : Stops dialect text (onItem done) := by
      refine peek_stops.bind fun content => ?_
      split
      · exact drop_then_stops (stops_pure _)
      · exact drop_then_stops (keyed_stops nodes _ _ (nodes.flowItems false) fun key value =>
          .mapping .mapping [(key, value)])
      · exact (nodes.node _).bind fun item => (nodes.flowItems false).bind fun items => stops_pure _
    split
    · split
      · exact drop_stops.bind onItemStops
      · exact Stops.bind stops_refuse onItemStops
    · exact onItemStops ()

private theorem flowEntries_stops (nodes : NodesStop dialect text fuel) (first : Bool) :
    Stops dialect text (flowEntries (fuel + 1) first) := by
  unfold flowEntries
  refine peek_stops.bind fun token => ?_
  split
  · exact drop_then_stops (stops_pure _)
  · extract_lets onEntry
    have onEntryStops (done : PUnit) : Stops dialect text (onEntry done) := by
      refine peek_stops.bind fun content => ?_
      split
      · exact drop_then_stops (stops_pure _)
      · exact drop_then_stops (keyed_stops nodes _ _ (nodes.flowEntries false) Prod.mk)
      · exact (nodes.node _).bind fun key => (nodes.flowEntries false).bind fun rest => stops_pure _
    split
    · split
      · exact drop_stops.bind onEntryStops
      · exact Stops.bind stops_refuse onEntryStops
    · exact onEntryStops ()

theorem nodesStop (dialect : Dialect) (text : List Char) (fuel : Nat) : NodesStop dialect text fuel := by
  induction fuel with
  | zero => exact nodesStop_zero
  | succ fuel nodes =>
      exact
        { node := node_stops nodes
          blockContent := blockContent_stops nodes
          nodeOrAbsent := nodeOrAbsent_stops nodes
          blockItems := blockItems_stops nodes
          indentlessItems := indentlessItems_stops nodes
          valueOrAbsent := valueOrAbsent_stops nodes
          blockEntries := blockEntries_stops nodes
          flowItems := flowItems_stops nodes
          flowEntries := flowEntries_stops nodes }

/-! ## Documents -/

theorem directives_stops (fuel : Nat) (versioned : Bool) (handles : List (String × String)) :
    Stops dialect text (directives fuel versioned handles) := by
  induction fuel generalizing versioned handles with
  | zero => exact stops_refuse
  | succ fuel inductionHypothesis =>
      unfold directives
      refine peek_stops.bind fun token => ?_
      split
      · split
        · exact stops_refuse
        · exact drop_then_stops (inductionHypothesis _ _)
      · split
        · exact stops_refuse
        · exact drop_then_stops (inductionHypothesis _ _)
      · exact drop_then_stops (inductionHypothesis _ _)
      · exact stops_pure _

theorem documentEnds_stops (fuel : Nat) : Stops dialect text (documentEnds fuel) := by
  induction fuel with
  | zero => exact stops_refuse
  | succ fuel inductionHypothesis =>
      unfold documentEnds
      refine peek_stops.bind fun token => ?_
      split
      · exact drop_then_stops inductionHypothesis
      · exact stops_pure _

private theorem markedContent_stops (fuel : Nat) : Stops dialect text (markedContent fuel) := by
  unfold markedContent
  refine peek_stops.bind fun token => ?_
  split
  · exact stops_pure _
  · exact stops_pure _
  · exact stops_pure _
  · exact stops_pure _
  · exact (nodesStop dialect text fuel).node .blockItem

theorem markedDocument_stops (fuel : Nat) : Stops dialect text (markedDocument fuel) := by
  unfold markedDocument
  refine (documentEnds_stops fuel).bind fun _ => peek_stops.bind fun token => ?_
  split
  · exact stops_pure _
  · refine (directives_stops fuel false []).bind fun handles => peek_stops.bind fun start => ?_
    split
    · refine drop_then_stops ?_
      refine Stops.bind (fun _ reads => ⟨trivial, reads.stop, reads.among, reads.anchored⟩) fun _ => ?_
      exact (markedContent_stops fuel).bind fun root => stops_pure _
    · exact stops_refuse

private theorem document_stops (fuel : Nat) : Stops dialect text (document fuel) := by
  unfold document
  refine peek_stops.bind fun token => ?_
  extract_lets atEnd
  have atEndStops (found : Option Node) : Stops dialect text (atEnd found) := by
    cases found with
    | none => exact stops_pure _
    | some root =>
        refine (documentEnds_stops fuel).bind fun _ => peek_stops.bind fun last => ?_
        split
        · exact stops_pure _
        · exact stops_refuse
  split
  · exact (markedDocument_stops fuel).bind atEndStops
  · exact (markedDocument_stops fuel).bind atEndStops
  · exact (markedDocument_stops fuel).bind atEndStops
  · exact (((nodesStop dialect text fuel).node .blockItem).map some).bind atEndStops

end Reading

/-- The tokens of a text give a node or none, or reading stops at a fault of the text. -/
theorem ofTokens_ends (dialect : Dialect) (text : List Char) :
    Ends (NodeFault dialect text) (fun _ => True)
      (Node.ofTokens dialect (tokens text).1 (tokens text).2) := by
  have stop : ScanFault text ((tokens text).2.getD .unreadable) := by
    cases stopped : (tokens text).2 with
    | none => exact .form
    | some fault => exact tokens_stop stopped
  unfold Node.ofTokens
  exact (Reading.document_stops _ _ ⟨stop, fun _ => id, List.forall_mem_nil _⟩).bind fun _ _ => trivial

/-- A text gives a node or none, or it stops at a fault of form, at an obstacle it holds, or at content
that is declined. -/
theorem ofText_ends (dialect : Dialect) (text : List Char) :
    Ends (NodeFault dialect text) (fun _ => True) (Node.ofText dialect text) := by
  have ends := ofTokens_ends dialect text
  unfold Node.ofText
  dsimp only
  split
  · next deep => exact .declined (.nesting deep)
  · cases isRoot : Node.ofTokens dialect (tokens text).1 (tokens text).2 with
    | error fault =>
        rw [isRoot] at ends
        exact ends
    | ok found =>
        show Ends _ _ (if found.any (nestingLimit < ·.height) then .error (Fault.declined .nesting)
          else .ok found)
        split
        · next high =>
            obtain ⟨root, rfl, isHigh⟩ := (Option.any_eq_true _ _).mp high
            exact .declined (.height isRoot (of_decide_eq_true isHigh))
        · exact trivial

end WorkflowLint.Yaml
