import WorkflowLint.Document.Issue
import WorkflowLint.Schema.Workflow
import WorkflowLint.Value.Conversion
import WorkflowLint.Value.Link

/-!
Contract: whether a document has the structure of a workflow.

Three stages: the schema, ids that several nodes declare, and references to nodes that do not exist.
The first stage that finds something refuses the document with all issues of that stage.  A schema
that demands little lets documents through whose parts are not what the later stages need; those end
with a misfit.
-/

set_option autoImplicit false

namespace WorkflowLint.Document

abbrev Entries := List (Value × Value)

inductive Misfit where
  | notMapping
  | notKey
  | notList
  | notText
  | missing (name : String)
  deriving DecidableEq

inductive Rejection where
  | refused (refusal : Refusal)
  | misfit (misfit : Misfit)

/-! ## The schema -/

def issueOf (problem : Problem) : Issue :=
  ⟨problem.shownPath, problem.message, problem.suggestion⟩

def refuse (issues : List Issue) : Except Rejection Unit :=
  match Refusal.ofIssues? issues with
  | some refusal => .error (.refused refusal)
  | none => .ok ()

/-- The first stage: the schema. -/
def checkSchema (schema : Schema) (document : Value) : Except Rejection Unit :=
  match sortedProblems? (schema.problems [] document) with
  | some problems => refuse (problems.map issueOf)
  | none => .error (.misfit .notText)

/-! ## Parts of a document -/

def entriesOf (value : Value) : Except Rejection Entries :=
  match value with
  | .map entries => .ok entries
  | _ => .error (.misfit .notMapping)

def keyOf (value : Value) : Except Rejection Value :=
  if value.isKey then .ok value else .error (.misfit .notKey)

/-- An element of the list of nodes: a mapping whose id, if it has one, can be a key. -/
def nodeOf (element : Value) : Except Rejection Entries := do
  let node ← entriesOf element
  let id := Value.field "id" node
  if id.isEmpty || id.isKey then return node else throw (.misfit .notKey)

/-- The nodes of a document; none when the field is empty or absent. -/
def nodesOf (document : Entries) : Except Rejection (List Entries) :=
  let nodes := Value.field "nodes" document
  if nodes.isEmpty then .ok []
  else
    match nodes.elements? with
    | some elements => elements.mapM nodeOf
    | none => .error (.misfit .notList)

def isAmong (value : Value) (values : List Value) : Bool :=
  values.any fun other => value.same other

/-! ## Ids -/

/-- The ids that are declared again, each once, in the order of their second declaration. -/
def repeatedIds (seen found : List Value) : List Value → List Value
  | [] => found
  | id :: rest =>
      let found := if isAmong id seen && !isAmong id found then found ++ [id] else found
      repeatedIds (seen ++ [id]) found rest

def repeatedIssue (id : Value) : Issue where
  path := "nodes[].id"
  message := "Duplicate node ID: \"" ++ id.displayText ++ "\""
  suggestion := "Each node must have a unique ID. Remove or rename the duplicate node with ID \"" ++
    id.displayText ++ "\"."

/-- The second stage: no id is declared twice. -/
def checkIds (nodes : List Entries) : Except Rejection Unit :=
  let ids := (nodes.map (Value.field "id")).filter (!·.isEmpty)
  refuse ((repeatedIds [] [] ids).map repeatedIssue)

/-! ## References -/

def labelsOf (nodes : List Entries) : Except Rejection (List Value) :=
  let labels := nodes.flatMap fun node => [Value.field "id" node, Value.field "name" node]
  (labels.filter (!·.isEmpty)).mapM keyOf

def linkReferences (channel : Value) : List Value :=
  (channel.links.map (Value.field Value.linkKey)).filter (!·.isEmpty)

/-- The references of connections: each source, then the links under its channels. -/
def references (connections : Entries) : List Value :=
  connections.flatMap fun (source, channels) =>
    source :: match channels with
      | .map entries => entries.flatMap fun (_, channel) => linkReferences channel
      | _ => []

/-- The reference is a text that is the id or name of a node. -/
def isKnown (known : List Value) (reference : Value) : Bool :=
  match reference with
  | .str _ => isAmong reference known
  | _ => false

/-- The references without a node, each once, in order. -/
def orphans (known : List Value) (found : List Value) : List Value → List Value
  | [] => found
  | reference :: rest =>
      if !isKnown known reference && !isAmong reference found then
        orphans known (found ++ [reference]) rest
      else orphans known found rest

def orphanIssue (reference : Value) : Issue where
  path := "connections"
  message := "Orphaned connection reference: \"" ++ reference.displayText ++ "\""
  suggestion := "Connection references node \"" ++ reference.displayText ++
    "\" which does not exist. Add the missing node or remove the invalid connection."

/-- The third stage: every reference has a node. -/
def checkReferences (nodes : List Entries) (connections : Value) : Except Rejection Unit :=
  if connections.isEmpty then .ok ()
  else do
    let known ← labelsOf nodes
    let connections ← entriesOf connections
    refuse ((orphans known [] (references connections)).map orphanIssue)

structure Accepted where
  document : Entries
  nodes : List Entries

def check (schema : Schema) (document : Value) : Except Rejection Accepted := do
  checkSchema schema document
  let entries ← entriesOf document
  let nodes ← nodesOf entries
  checkIds nodes
  checkReferences nodes (Value.field "connections" entries)
  return ⟨entries, nodes⟩

end WorkflowLint.Document
