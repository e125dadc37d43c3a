import WorkflowLint.Classification
import WorkflowLint.Document.Lines
import WorkflowLint.Document.Structure

/-!
Contract: the outline of an accepted document.

Owns: what a document says about its nodes and connections, with labels as they are written, and
the graph of an outline whose labels are texts.  The workflow schema makes all labels texts; a schema
that demands less may leave others, and then the outline has no graph.
-/

set_option autoImplicit false

namespace WorkflowLint.Document

structure OutlineNode where
  /-- The id, or else the name, or else a text made from the position. -/
  id : Value
  type : Value
  name : Value
  params : Option Entries
  credentials : Option Entries
  flags : Option Flags

structure OutlineEdge where
  source : Value
  target : Value
  outcome : Outcome

structure Outline where
  nodes : List OutlineNode
  edges : List OutlineEdge
  hasCredentials : Bool
  lines : List (Value × Int)

/-! ## Nodes -/

def firstGiven (values : List Value) : Value :=
  (values.find? (!·.isNull)).getD .null

/-- The first value that is not empty, or else the last resort. -/
def firstFilled (values : List Value) (otherwise : Value) : Value :=
  (values.find? (!·.isEmpty)).getD otherwise

/-- The flags of a node: from the node itself, and for the retry flags else from its settings.  A
node on which only the number of tries is given has none. -/
def flagsOf (node : Entries) : Option Flags :=
  let settings := Value.field "settings" node
  let pick (name : String) : Value := firstGiven [Value.field name node, settings.fieldOf name]
  let flags : Flags :=
    ⟨Value.field "continueOnFail" node, pick "retryOnFail", pick "waitBetweenTries",
      pick "maxTries"⟩
  if flags.continueOnFail.isNull && flags.retryOnFail.isNull && flags.waitBetweenTries.isNull then
    none
  else some flags

/-- The id that a node without id and name gets from its position. -/
def positionId (index : Nat) : Value :=
  .str ("node-" ++ String.ofList (Decimal.digitsOf index))

/-- A node of an outline.  The type must be given. -/
def outlineNode (node : Entries) (index : Nat) : Except Rejection OutlineNode :=
  match Value.lookupText "type" node with
  | none => .error (.misfit (.missing "type"))
  | some type =>
      .ok
        { id := firstFilled [Value.field "id" node, Value.field "name" node] (positionId index)
          type := type
          name := Value.field "name" node
          params := (Value.field "parameters" node).entries?
          credentials := (Value.field "credentials" node).entries?
          flags := flagsOf node }

/-- The labels that refer to a node: its id, and its name if it has one. -/
def OutlineNode.labels (node : OutlineNode) : List Value :=
  node.id :: if node.name.isEmpty then [] else [node.name]

def checkLabels (nodes : List OutlineNode) : Except Rejection Unit :=
  if (nodes.flatMap OutlineNode.labels).all Value.isKey then .ok ()
  else .error (.misfit .notKey)

/-! ## Connections -/

/-- Id of the last node that a label refers to; a label of no node stands for itself. -/
def resolve (nodes : List OutlineNode) (label : Value) : Value :=
  match nodes.reverse.find? fun node => isAmong label node.labels with
  | some node => node.id
  | none => label

/-- Type of the last node with an id. -/
def typeOf? (nodes : List OutlineNode) (id : Value) : Option Value :=
  (nodes.reverse.find? fun node => id.same node.id).map (·.type)

/-- The type as the outcome of an edge looks at it: an empty one is none, and another than a text
cannot be looked at. -/
def typeText (type : Option Value) : Except Rejection (Option String) :=
  match type with
  | none => .ok none
  | some (.str text) => .ok (some text)
  | some other => if other.isEmpty then .ok none else .error (.misfit .notText)

def slotOutcome (nodes : List OutlineNode) (source channel : Value) (slot : Option Nat) :
    Except Rejection Outcome :=
  match channel, slot with
  | .str "main", some (index + 1) => do
      let type ← typeText (typeOf? nodes (resolve nodes source))
      return .ofSlot "main" (some (index + 1)) type
  | .str name, _ => .ok (.ofSlot name none none)
  | _, _ => .ok .success

def slotEdges (nodes : List OutlineNode) (source channel : Value) (slot : Option Nat)
    (entry : Value) : Except Rejection (List OutlineEdge) := do
  let outcome ← slotOutcome nodes source channel slot
  return (linkReferences entry).map fun target =>
    ⟨resolve nodes source, resolve nodes target, outcome⟩

def channelEdges (nodes : List OutlineNode) (source channel value : Value) :
    Except Rejection (List OutlineEdge) :=
  match value with
  | .list items => do
      let slots ← items.zipIdx.mapM fun (entry, index) =>
        slotEdges nodes source channel (some index) entry
      return slots.flatten
  | _ => slotEdges nodes source channel none value

def sourceEdges (nodes : List OutlineNode) (source channels : Value) :
    Except Rejection (List OutlineEdge) :=
  if channels.isEmpty then .ok []
  else do
    let entries ← entriesOf channels
    let edges ← entries.mapM fun (channel, value) => channelEdges nodes source channel value
    return edges.flatten

/-- The edges of all connections, in the order of the document. -/
def outlineEdges (nodes : List OutlineNode) (connections : Value) :
    Except Rejection (List OutlineEdge) :=
  if connections.isEmpty then .ok []
  else do
    let entries ← entriesOf connections
    let edges ← entries.mapM fun (source, channels) => sourceEdges nodes source channels
    return edges.flatten

/-! ## The outline -/

/-- Enter a line under an id; the last line counts, the first id keeps its place. -/
def enterLine (id : Value) (line : Nat) : List (Value × Int) → List (Value × Int)
  | [] => [(id, line)]
  | (other, old) :: rest =>
      if id.same other then (other, line) :: rest else (other, old) :: enterLine id line rest

def enterNode (lines : LineValues) (found : List (Value × Int)) (label : Value × Value) :
    List (Value × Int) :=
  match lines.lineOf? label.1.text? label.2.text? with
  | some line => enterLine label.1 line found
  | none => found

def linesOf (text : List Char) (labels : List (Value × Value)) : List (Value × Int) :=
  labels.foldl (enterNode (lineValues text)) []

def outline (text : List Char) (accepted : Accepted) : Except Rejection Outline := do
  match Value.lookupText "nodes" accepted.document with
  | none => throw (.misfit (.missing "nodes"))
  | some value =>
      if value.elements?.isNone then throw (.misfit .notList)
      let nodes ← accepted.nodes.zipIdx.mapM fun (node, index) => outlineNode node index
      checkLabels nodes
      let edges ← outlineEdges nodes (Value.field "connections" accepted.document)
      return { nodes := nodes
               edges := edges
               hasCredentials := !(Value.field "credentials" accepted.document).isEmpty
               lines := linesOf text (nodes.map fun node => (node.id, node.name)) }

/-! ## The graph -/

def lineLabel (node : Node) : Value × Value := (.str node.id, (node.name.map Value.str).getD .null)

def graphLines (text : List Char) (nodes : List Node) : List (String × Int) :=
  (linesOf text (nodes.map lineLabel)).filterMap fun (id, line) =>
    id.text?.map fun label => (label, line)

def OutlineNode.toNode? (node : OutlineNode) : Option Node := do
  let id ← node.id.text?
  let type ← node.type.text?
  let name ← match node.name with
    | .null => some none
    | .str text => some (some text)
    | _ => none
  return ⟨id, type, name, node.params, node.credentials, node.flags⟩

def OutlineEdge.toEdge? (edge : OutlineEdge) : Option Edge := do
  return ⟨← edge.source.text?, ← edge.target.text?, edge.outcome⟩

def Outline.toGraph? (outline : Outline) : Option Graph := do
  let nodes ← outline.nodes.mapM OutlineNode.toNode?
  let edges ← outline.edges.mapM OutlineEdge.toEdge?
  let lines ← outline.lines.mapM fun (id, line) => id.text?.map fun text => (text, line)
  return { nodes := nodes, edges := edges, hasCredentials := outline.hasCredentials
           nodeLines := lines }

end WorkflowLint.Document
