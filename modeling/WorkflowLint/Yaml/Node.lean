import WorkflowLint.Yaml.Tag
import WorkflowLint.Yaml.Lexer

/-!
Contract: the node that a token sequence stands for.

Owns: the grammar over tokens.  Every node has its tag; an alias stands for the node of its anchor.
A stream holds at most one document.  An alias inside the node of its own anchor is declined, and so is
nesting past `nestingLimit`.
-/

set_option autoImplicit false

namespace WorkflowLint.Yaml

inductive Node where
  | scalar (tag : Tag) (text : String)
  | sequence (tag : Tag) (items : List Node)
  | mapping (tag : Tag) (entries : List (Node × Node))

def Node.tag : Node → Tag
  | .scalar tag _ => tag
  | .sequence tag _ => tag
  | .mapping tag _ => tag

mutual

def Node.height : Node → Nat
  | .scalar _ _ => 1
  | .sequence _ items => itemsHeight items + 1
  | .mapping _ entries => entriesHeight entries + 1

def itemsHeight : List Node → Nat
  | [] => 0
  | item :: rest => max item.height (itemsHeight rest)

def entriesHeight : List (Node × Node) → Nat
  | [] => 0
  | (key, value) :: rest => max (max key.height value.height) (entriesHeight rest)

end

structure NodeReader where
  tokens : List Token
  /-- Why there are no more tokens behind those. -/
  stop : Fault
  dialect : Dialect
  /-- Tag handles and what they expand to. -/
  handles : List (String × String)
  /-- Anchors met; an anchor has no node yet while its node is read. -/
  anchors : List (String × Option Node)

abbrev Reading := StateT NodeReader (Except Fault)

namespace Reading

def peek : Reading Token := do
  let reader ← get
  match reader.tokens with
  | token :: _ => return token
  | [] => throw reader.stop

def drop : Reading Unit :=
  modify fun reader => { reader with tokens := reader.tokens.tail }

def refuse {α : Type} : Reading α := throw .unreadable

def standardHandles : List (String × String) := [("!", "!"), ("!!", coreTagSpace)]

/-! ## Properties -/

def tagName (tag : TagText) : Reading String := do
  match tag.handle with
  | none => return tag.suffix
  | some handle =>
      match (← get).handles.lookup handle with
      | some expansion => return expansion ++ tag.suffix
      | none => refuse

structure Properties where
  anchor : Option String
  tag : Option String

def anchor? : Reading (Option String) := do
  match ← peek with
  | .anchor name => drop; return some name
  | _ => return none

def tag? : Reading (Option TagText) := do
  match ← peek with
  | .tag tag => drop; return some tag
  | _ => return none

def properties : Reading Properties := do
  match ← anchor? with
  | some name =>
      let tag ← tag?
      return ⟨some name, ← tag.mapM tagName⟩
  | none =>
      match ← tag? with
      | some tag =>
          let anchor ← anchor?
          return ⟨anchor, some (← tagName tag)⟩
      | none => return ⟨none, none⟩

def enter : Option String → Reading Unit
  | none => return ()
  | some name => do
      let reader ← get
      if (reader.anchors.lookup name).isSome then refuse
      else set { reader with anchors := (name, none) :: reader.anchors }

def bind (anchor : Option String) (node : Node) : Reading Node := do
  match anchor with
  | none => return node
  | some name =>
      modify fun reader => { reader with anchors := (name, some node) :: reader.anchors }
      return node

def ofAlias (name : String) : Reading Node := do
  match (← get).anchors.lookup name with
  | some (some node) => return node
  | some none => throw (.declined .selfContained)
  | none => refuse

/-- The tag of a scalar: the one written, or the one that its text looks like. -/
def scalarTag (written : Option String) (plain : Bool) (text : String) : Reading Tag := do
  let dialect := (← get).dialect
  match written with
  | some "!" => return dialect.tagOf text
  | some name => return Tag.ofName name
  | none => return if plain then dialect.tagOf text else .text

def collectionTag (written : Option String) (usual : Tag) : Tag :=
  match written with
  | none => usual
  | some "!" => usual
  | some name => Tag.ofName name

def absent : Node := .scalar .null ""

/-! ## Content -/

/-- Where a node stands decides which tokens end it before it starts. -/
inductive Place where
  | blockItem
  | indentlessItem
  | blockEntry
  | flowItem
  | flowPairKey
  | flowPairValue
  | flowEntryKey
  | flowEntryValue

/-- Nothing is written at a place when this token comes. -/
def Place.isAbsent : Place → Token → Bool
  | .blockItem, .blockEntry | .blockItem, .blockEnd => true
  | .indentlessItem, .blockEntry | .indentlessItem, .key | .indentlessItem, .value
  | .indentlessItem, .blockEnd => true
  | .blockEntry, .key | .blockEntry, .value | .blockEntry, .blockEnd => true
  | .flowPairKey, .value | .flowPairKey, .flowEntry | .flowPairKey, .flowSequenceEnd => true
  | .flowPairValue, .flowEntry | .flowPairValue, .flowSequenceEnd => true
  | .flowEntryKey, .value | .flowEntryKey, .flowEntry | .flowEntryKey, .flowMappingEnd => true
  | .flowEntryValue, .flowEntry | .flowEntryValue, .flowMappingEnd => true
  | _, _ => false

def Place.allowsBlock : Place → Bool
  | .blockItem | .indentlessItem | .blockEntry => true
  | _ => false

/-- A sequence without indentation may stand at a place. -/
def Place.allowsIndentless : Place → Bool
  | .blockEntry => true
  | _ => false

mutual

def node : Nat → Place → Reading Node
  | 0, _ => refuse
  | fuel + 1, place => do
      match ← peek with
      | .alias name => drop; ofAlias name
      | _ =>
          let props ← properties
          match ← peek with
          | .scalar text plain =>
              drop
              enter props.anchor
              bind props.anchor (.scalar (← scalarTag props.tag plain text) text)
          | .flowSequenceStart =>
              enter props.anchor
              drop
              let items ← flowItems fuel true
              bind props.anchor (.sequence (collectionTag props.tag .sequence) items)
          | .flowMappingStart =>
              enter props.anchor
              drop
              let entries ← flowEntries fuel true
              bind props.anchor (.mapping (collectionTag props.tag .mapping) entries)
          | other => blockContent fuel place props other

def blockContent : Nat → Place → Properties → Token → Reading Node
  | 0, _, _, _ => refuse
  | fuel + 1, place, props, token => do
      match token, place.allowsBlock, place.allowsIndentless with
      | .blockEntry, _, true =>
          enter props.anchor
          let items ← indentlessItems fuel
          bind props.anchor (.sequence (collectionTag props.tag .sequence) items)
      | .blockSequenceStart, true, _ =>
          enter props.anchor
          drop
          let items ← blockItems fuel
          bind props.anchor (.sequence (collectionTag props.tag .sequence) items)
      | .blockMappingStart, true, _ =>
          enter props.anchor
          drop
          let entries ← blockEntries fuel
          bind props.anchor (.mapping (collectionTag props.tag .mapping) entries)
      | _, _, _ =>
          if props.anchor.isNone && props.tag.isNone then refuse
          else
            enter props.anchor
            bind props.anchor (.scalar (← scalarTag props.tag true "") "")

def nodeOrAbsent : Nat → Place → Reading Node
  | 0, _ => refuse
  | fuel + 1, place => do
      if place.isAbsent (← peek) then return absent else node fuel place

def blockItems : Nat → Reading (List Node)
  | 0 => refuse
  | fuel + 1 => do
      match ← peek with
      | .blockEntry =>
          drop
          let item ← nodeOrAbsent fuel .blockItem
          return item :: (← blockItems fuel)
      | .blockEnd => drop; return []
      | _ => refuse

def indentlessItems : Nat → Reading (List Node)
  | 0 => refuse
  | fuel + 1 => do
      match ← peek with
      | .blockEntry =>
          drop
          let item ← nodeOrAbsent fuel .indentlessItem
          return item :: (← indentlessItems fuel)
      | _ => return []

def valueOrAbsent : Nat → Place → Reading Node
  | 0, _ => refuse
  | fuel + 1, place => do
      match ← peek with
      | .value => drop; nodeOrAbsent fuel place
      | _ => return absent

def blockEntries : Nat → Reading (List (Node × Node))
  | 0 => refuse
  | fuel + 1 => do
      match ← peek with
      | .key =>
          drop
          let key ← nodeOrAbsent fuel .blockEntry
          let value ← valueOrAbsent fuel .blockEntry
          return (key, value) :: (← blockEntries fuel)
      | .blockEnd => drop; return []
      | _ => refuse

/-- The rest of a bracketed sequence; entries are divided by commas. -/
def flowItems : Nat → Bool → Reading (List Node)
  | 0, _ => refuse
  | fuel + 1, first => do
      match ← peek with
      | .flowSequenceEnd => drop; return []
      | token =>
          if !first then
            match token with
            | .flowEntry => drop
            | _ => refuse
          match ← peek with
          | .flowSequenceEnd => drop; return []
          | .key =>
              drop
              let key ← nodeOrAbsent fuel .flowPairKey
              let value ← valueOrAbsent fuel .flowPairValue
              return .mapping .mapping [(key, value)] :: (← flowItems fuel false)
          | _ =>
              let item ← node fuel .flowItem
              return item :: (← flowItems fuel false)

/-- The rest of a bracketed mapping; entries are divided by commas. -/
def flowEntries : Nat → Bool → Reading (List (Node × Node))
  | 0, _ => refuse
  | fuel + 1, first => do
      match ← peek with
      | .flowMappingEnd => drop; return []
      | token =>
          if !first then
            match token with
            | .flowEntry => drop
            | _ => refuse
          match ← peek with
          | .flowMappingEnd => drop; return []
          | .key =>
              drop
              let key ← nodeOrAbsent fuel .flowEntryKey
              let value ← valueOrAbsent fuel .flowEntryValue
              return (key, value) :: (← flowEntries fuel false)
          | _ =>
              let key ← node fuel .flowItem
              return (key, absent) :: (← flowEntries fuel false)

end

/-! ## Documents -/

/-- The directives before a document.  The version is given at most once and must be of the first
major one; a handle is given at most once. -/
def directives : Nat → Bool → List (String × String) → Reading (List (String × String))
  | 0, _, _ => refuse
  | fuel + 1, versioned, handles => do
      match ← peek with
      | .directive (.version major _) =>
          if versioned || major != 1 then refuse
          else
            drop
            directives fuel true handles
      | .directive (.handle name expansion) =>
          if (handles.lookup name).isSome then refuse
          else
            drop
            directives fuel versioned (handles ++ [(name, expansion)])
      | .directive .other =>
          drop
          directives fuel versioned handles
      | _ => return handles

def documentEnds : Nat → Reading Unit
  | 0 => refuse
  | fuel + 1 => do
      match ← peek with
      | .documentEnd => drop; documentEnds fuel
      | _ => return ()

def markedContent (fuel : Nat) : Reading Node := do
  match ← peek with
  | .directive _ | .documentStart | .documentEnd | .streamEnd => return absent
  | _ => node fuel .blockItem

/-- A document that starts with a marker; `none` at the end of the stream. -/
def markedDocument (fuel : Nat) : Reading (Option Node) := do
  documentEnds fuel
  match ← peek with
  | .streamEnd => return none
  | _ =>
      let handles ← directives fuel false []
      match ← peek with
      | .documentStart =>
          drop
          modify fun reader => { reader with handles := handles ++ standardHandles }
          return some (← markedContent fuel)
      | _ => refuse

/-- The document of a stream, with nothing behind it. -/
def document (fuel : Nat) : Reading (Option Node) := do
  let found ← match ← peek with
    | .directive _ | .documentStart | .streamEnd => markedDocument fuel
    | _ => some <$> node fuel .blockItem
  match found with
  | none => return none
  | some root =>
      documentEnds fuel
      match ← peek with
      | .streamEnd => return some root
      | _ => refuse

end Reading

def Token.openAfter (opened : Nat) : Token → Nat
  | .blockSequenceStart | .blockMappingStart | .flowSequenceStart | .flowMappingStart => opened + 1
  | .blockEnd | .flowSequenceEnd | .flowMappingEnd => opened - 1
  | _ => opened

/-- The most collections that tokens have open at once, after some that are. -/
def nesting (opened : Nat) : List Token → Nat
  | [] => opened
  | token :: rest => max opened (nesting (token.openAfter opened) rest)

/-- The node of tokens and of the fault behind them, `none` where they hold no document. -/
def Node.ofTokens (dialect : Dialect) (tokens : List Token) (fault : Option Fault) :
    Except Fault (Option Node) := do
  let reader : NodeReader :=
    ⟨tokens, fault.getD .unreadable, dialect, Reading.standardHandles, []⟩
  let (root, _) ← (Reading.document (4 * tokens.length + 8)).run reader
  return root

/-- The node of a text, `none` for a text without a document.  Tokens count for half of the limit,
since a sequence without indentation and a pair in a bracketed sequence are nested without tokens of
their own.  Aliases are counted with the node. -/
def Node.ofText (dialect : Dialect) (text : List Char) : Except Fault (Option Node) := do
  let (tokens, fault) := tokens text
  if nestingLimit < 2 * nesting 0 tokens then throw (.declined .nesting)
  let root ← Node.ofTokens dialect tokens fault
  if root.any (nestingLimit < ·.height) then throw (.declined .nesting)
  return root

end WorkflowLint.Yaml
