import WorkflowLint.Regex.Escape
import WorkflowLint.Text.Identifier

/-!
Contract: the pattern of a pattern text.

Owns: the grammar of pattern texts.  Flags for the whole pattern stand at its start only.  Each fault
is reported at the place and with the cause that a left to right reading meets first.
-/

set_option autoImplicit false

namespace WorkflowLint.Regex

namespace Step

/-! ## Character sets -/

def setToken (token : List Char) : Step SetItem := do
  match token with
  | ['\\', mark] => setEscape mark
  | c :: _ => return .code c.toNat
  | [] => return .code 0

def setSpan (low high : List Char) (lowItem highItem : SetItem) : Step SetItem := do
  let refuse : Step SetItem :=
    fail (.badRange (String.ofList low) (String.ofList high)) (low.length + 1 + high.length)
  match lowItem, highItem with
  | .code first, .code last => if last < first then refuse else return .span first last
  | _, _ => refuse

def setItems (start : Nat) : Nat → List SetItem → Step (List SetItem)
  | 0, _ => failAt .unterminatedSet start
  | fuel + 1, items => do
      match ← take with
      | none => failAt .unterminatedSet start
      | some token =>
          if token == [']'] && !items.isEmpty then return items
          else
            let item ← setToken token
            if ← accept '-' then
              match ← take with
              | none => failAt .unterminatedSet start
              | some [']'] => return items ++ [item, .code '-'.toNat]
              | some other =>
                  let otherItem ← setToken other
                  let span ← setSpan token other item otherItem
                  setItems start fuel (items ++ [span])
            else setItems start fuel (items ++ [item])

def charSet (flags : Flags) : Step Piece := do
  let start := (← tell) - 1
  let negated ← accept '^'
  let items ← setItems start ((← get).pattern.length + 1) []
  return .char ⟨items.eraseDups, negated, flags.mode, flags.ascii⟩

/-! ## Repetitions -/

def count (digits : List Char) : Step Nat := do
  if Decimal.digitLimit < digits.length then throw (.ofCause (.tooManyDigits digits.length))
  else
    let value := Decimal.digitsValue digits
    if countLimit ≤ value then throw (.ofCause .countTooLarge) else return value

/-- Counts in braces, behind the opening brace; `none` when the brace is no repetition. -/
def counts (start : Nat) : Step (Option (Nat × Option Nat)) := do
  let fuel := (← get).pattern.length
  let low ← takeWhile Char.isDigit fuel
  let high ← if ← accept ',' then takeWhile Char.isDigit fuel else pure low
  if ← accept '}' then
    let least ← if low.isEmpty then pure 0 else count low
    if high.isEmpty then return some (least, none)
    else
      let most ← count high
      if most < least then failAt .reversedCounts start
      else return some (least, some most)
  else
    seek start
    return none

/-- The counts of a repetition mark; `none` when an opening brace is no repetition. -/
def repetition (mark : Char) : Step (Option (Nat × Option Nat)) := do
  match mark with
  | '?' => return some (0, some 1)
  | '*' => return some (0, none)
  | '+' => return some (1, none)
  | _ => if (← peek) == some ['}'] then return none else counts (← tell)

def appetite : Step Appetite := do
  if ← accept '?' then return .lazy
  else if ← accept '+' then return .possessive
  else return .greedy

def Appetite.label : Appetite → String
  | .greedy => "MAX_REPEAT"
  | .lazy => "MIN_REPEAT"
  | .possessive => "POSSESSIVE_REPEAT"

/-- Repeat the last of the pieces, which are kept in reverse. -/
def repeated (flags : Flags) (start : Nat) (least : Nat) (most : Option Nat) (pieces : List Piece) :
    Step (List Piece) := do
  match pieces with
  | [] => failAt .nothingToRepeat start
  | .anchor _ :: _ => failAt .nothingToRepeat start
  | .times _ _ _ _ :: _ => failAt .multipleRepeat start
  | last :: others =>
      let appetite ← appetite
      if flags.template then defer (.repeatInTemplate (Appetite.label appetite))
      return .times appetite least most [last] :: others

/-! ## Flags -/

def flag? : List Char → Option Flags
  | [c] => Flags.ofLetter? c
  | _ => none

def startsFlags (token : List Char) : Bool :=
  (flag? token).isSome || token == ['L'] || token == ['-']

def isLetter : List Char → Bool
  | [c] => Text.startsName c && c != '_'
  | _ => false

/-- The flags that are turned on, and the token that ends them. -/
def flagsOn : Nat → List Char → Flags → Step (Flags × List Char)
  | 0, _, _ => fail .missingFlagEnd 0
  | fuel + 1, token, flags => do
      if token == ['L'] then fail .localeFlag 0
      match flag? token with
      | none => fail (if isLetter token then .unknownFlag else .missingFlagEnd) token.length
      | some flag =>
          let flags := flags.union flag
          if (flag.ascii || flag.unicode) && flags.ascii && flags.unicode then fail .mixedTypeFlags 0
          match ← take with
          | none => fail .missingFlagEnd 0
          | some next =>
              if next == [')'] || next == ['-'] || next == [':'] then return (flags, next)
              else flagsOn fuel next flags

def flagsOff : Nat → List Char → Flags → Step Flags
  | 0, _, _ => fail .missingColon 0
  | fuel + 1, token, flags => do
      match flag? token with
      | none =>
          if token == ['L'] then fail .typeFlagTurnedOff 0
          else fail (if isLetter token then .unknownFlag else .missingColon) token.length
      | some flag =>
          if flag.ascii || flag.unicode then fail .typeFlagTurnedOff 0
          let flags := flags.union flag
          match ← take with
          | none => fail .missingColon 0
          | some next =>
              if next == [':'] then return flags else flagsOff fuel next flags

/-- Flags for a group, or `none` after flags for the whole pattern, which are entered. -/
def groupFlags (token : List Char) : Step (Option (Flags × Flags)) := do
  let fuel := (← get).pattern.length + 1
  let (added, ending) ← if token == ['-'] then pure ({}, token) else flagsOn fuel token {}
  if ending == [')'] then
    modify fun source => { source with flags := source.flags.union added }
    return none
  else
    if added.template then fail .globalFlagTurnedOn 1
    let removed ←
      if ending == ['-'] then
        match ← take with
        | none => fail .missingFlag 0
        | some next =>
            if (flag? next).isNone && next != ['L'] then
              fail (if isLetter next then .unknownFlag else .missingFlag) next.length
            else flagsOff fuel next {}
      else pure {}
    if removed.template then fail .globalFlagTurnedOff 1
    if added.shared removed != {} then fail .flagOnAndOff 1
    return some (added, removed)

/-! ## Groups -/

def openGroup (name : Option (List Char)) : Step Nat := do
  let source ← get
  let number := source.groups.size
  match name with
  | none =>
      set { source with groups := source.groups.push none }
      return number
  | some name =>
      let text := String.ofList name
      match source.names.lookup text with
      | some earlier => fail (.redefinedGroup text number earlier) (name.length + 1)
      | none =>
          set { source with
            groups := source.groups.push none, names := (text, number) :: source.names }
          return number

def closeGroup (number : Nat) (body : List Piece) : Step Unit :=
  modify fun source =>
    { source with groups := source.groups.setIfInBounds number (some (widthOf body)) }

def groupName (terminator : Char) : Step (List Char) := do
  let name ← name terminator "group name"
  if Text.isName name then return name
  else fail (.badGroupName (String.ofList name)) (name.length + 1)

def namedGroup (name : List Char) : Step Nat := do
  match (← get).names.lookup (String.ofList name) with
  | some number => return number
  | none => fail (.unknownGroupName (String.ofList name)) (name.length + 1)

def namedReference (flags : Flags) : Step Piece := do
  let name ← groupName ')'
  reference flags (← namedGroup name) (name.length + 1)

def conditionGroup : Step Nat := do
  let name ← name ')' "group name"
  let back := name.length + 1
  let number ←
    if Text.isName name then namedGroup name
    else
      match Decimal.readInt? 10 name with
      | none => fail (.badGroupName (String.ofList name)) back
      | some value =>
          if value < 0 then fail (.badGroupName (String.ofList name)) back
          else if value == 0 then fail .badGroupNumber back
          else if (1073741823 : Int) ≤ value then fail (.invalidReference value.toNat) back
          else
            let position := (← tell) - back
            modify fun source =>
              if (source.mentioned.lookup value.toNat).isSome then source
              else { source with mentioned := source.mentioned ++ [(value.toNat, position)] }
            pure value.toNat
  checkBehind number
  return number

def comment (start : Nat) : Nat → Step Unit
  | 0 => failAt .unterminatedComment start
  | fuel + 1 => do
      if (← peek).isNone then failAt .unterminatedComment start
      else if (← take) == some [')'] then return ()
      else comment start fuel

def lineComment : Nat → Step Unit
  | 0 => return ()
  | fuel + 1 => do
      match ← take with
      | none => return ()
      | some token => if token == ['\n'] then return () else lineComment fuel

def close (start : Nat) : Step Unit := do
  if ← accept ')' then return () else failAt .unterminatedGroup start

/-- What the characters behind an opening parenthesis announce. -/
inductive Opening where
  | capture (name : Option (List Char))
  | plain (added removed : Flags)
  | atomic
  | look (behind negated : Bool)
  | condition
  | piece (piece : Piece)
  /-- Nothing that counts, such as a comment. -/
  | nothing
  | wholeFlags

/-- An extension that starts with `P`. -/
def namedOpening (flags : Flags) : Step Opening := do
  if ← accept '<' then return .capture (some (← groupName '>'))
  else if ← accept '=' then return .piece (← namedReference flags)
  else
    match ← take with
    | none => fail .unexpectedEnd 0
    | some token => fail (.unknownExtension (String.ofList ('P' :: token))) (token.length + 2)

def opening (flags : Flags) (start : Nat) : Step Opening := do
  if !(← accept '?') then return .capture none
  else
    match ← take with
    | none => fail .unexpectedEnd 0
    | some ['P'] => namedOpening flags
    | some [':'] => return .plain {} {}
    | some ['#'] =>
        comment start ((← get).pattern.length + 1)
        return .nothing
    | some ['='] => return .look false false
    | some ['!'] => return .look false true
    | some ['<'] =>
        match ← take with
        | none => fail .unexpectedEnd 0
        | some ['='] => return .look true false
        | some ['!'] => return .look true true
        | some token => fail (.unknownExtension (String.ofList ('<' :: token))) (token.length + 2)
    | some ['('] => return .condition
    | some ['>'] => return .atomic
    | some token =>
        if startsFlags token then
          match ← groupFlags token with
          | none => return .wholeFlags
          | some (added, removed) => return .plain added removed
        else fail (.unknownExtension (String.ofList token)) (token.length + 1)

def isVerboseBlank (c : Char) : Bool :=
  c == ' ' || ('\t' ≤ c && c ≤ '\r')

/-! ## Pieces -/

mutual

/-- A choice of sequences.  Only at the top of the pattern do flags of one alternative reach the
next. -/
def alternatives : Nat → Flags → Bool → Step (List Piece)
  | 0, _, _ => fail .unbalanced 0
  | fuel + 1, flags, top => do
      let first ← sequence fuel flags top []
      if (← peek) == some ['|'] then
        let others ← moreAlternatives fuel flags top
        return choice first others
      else return first

def moreAlternatives : Nat → Flags → Bool → Step (List (List Piece))
  | 0, _, _ => fail .unbalanced 0
  | fuel + 1, flags, top => do
      if ← accept '|' then
        let whole := (← get).flags
        let flags := if top then whole else flags
        let one ← sequence fuel flags false []
        return one :: (← moreAlternatives fuel flags top)
      else return []

/-- A sequence of pieces; those read are kept in reverse.  Flags for the whole pattern may come as
long as the pattern has no piece. -/
def sequence : Nat → Flags → Bool → List Piece → Step (List Piece)
  | 0, _, _, _ => fail .unbalanced 0
  | fuel + 1, flags, first, pieces => do
      match ← peek with
      | none => return pieces.reverse.flatMap Piece.parts
      | some ['|'] => return pieces.reverse.flatMap Piece.parts
      | some [')'] => return pieces.reverse.flatMap Piece.parts
      | some token =>
          advance
          let set (items : List SetItem) (negated : Bool) : Piece :=
            .char ⟨items, negated, flags.mode, flags.ascii⟩
          match token with
          -- Only a backslash makes a token of two characters.
          | [_, mark] =>
              let piece ← pieceEscape flags mark
              sequence fuel flags first (piece :: pieces)
          | [c] =>
              if flags.verbose && isVerboseBlank c then sequence fuel flags first pieces
              else if flags.verbose && c == '#' then
                lineComment ((← get).pattern.length + 1)
                sequence fuel flags first pieces
              else if c == '[' then
                let piece ← charSet flags
                sequence fuel flags first (piece :: pieces)
              else if c == '*' || c == '+' || c == '?' || c == '\x7b' then
                let start := (← tell) - 1
                match ← repetition c with
                | none => sequence fuel flags first (set [.code c.toNat] false :: pieces)
                | some (least, most) =>
                    let pieces ← repeated flags start least most pieces
                    sequence fuel flags first pieces
              else if c == '.' then
                let piece := if flags.dotAll then set [] true else set [.code 10] true
                sequence fuel flags first (piece :: pieces)
              else if c == '^' then
                let test := if flags.multiline then Anchor.lineStart else .textStart
                sequence fuel flags first (.anchor test :: pieces)
              else if c == '$' then
                let test := if flags.multiline then Anchor.lineEnd else .lastLineEnd
                sequence fuel flags first (.anchor test :: pieces)
              else if c == '(' then
                let start := (← tell) - 1
                match ← opening flags start with
                | .nothing => sequence fuel flags first pieces
                | .wholeFlags =>
                    let scope := (← get).flags
                    if !first || !pieces.isEmpty then failAt .misplacedFlags start
                    else sequence fuel scope first pieces
                | .piece piece => sequence fuel flags first (piece :: pieces)
                | announced =>
                    let piece ← grouped fuel flags start announced
                    sequence fuel flags first (piece :: pieces)
              else sequence fuel flags first (set [.code c.toNat] false :: pieces)
          | _ => fail .unbalanced 0

def grouped : Nat → Flags → Nat → Opening → Step Piece
  | 0, _, _, _ => fail .unbalanced 0
  | fuel + 1, flags, start, announced => do
      match announced with
      | .capture name =>
          let number ← openGroup name
          let body ← alternatives fuel flags false
          close start
          closeGroup number body
          return .group (some number) body
      | .plain added removed =>
          let body ← alternatives fuel (flags.within added removed) false
          close start
          return if added == {} && removed == {} then .group none body else .scoped body
      | .atomic =>
          let body ← alternatives fuel flags false
          close start
          return .atomic body
      | .look behind negated =>
          let outer := (← get).behind
          if behind && outer.isNone then
            modify fun source => { source with behind := some source.groups.size }
          let body ← alternatives fuel flags false
          if behind then modify fun source => { source with behind := outer }
          close start
          let width := widthOf body
          if behind && width.least != width.most then defer .looseLookbehind
          return .look (if behind then some width.least else none) negated body
      | .condition =>
          let number ← conditionGroup
          let present ← sequence fuel flags false []
          if ← accept '|' then
            let absent ← sequence fuel flags false []
            if (← peek) == some ['|'] then fail .tooManyBranches 0
            close start
            return .conditional number present absent false
          else
            close start
            return .conditional number present [] true
      | .piece piece => return piece
      | .nothing => return .group none []
      | .wholeFlags => return .group none []

end

def whole (ignoreCase : Bool) : Step Pattern := do
  advance
  let source ← get
  let flags : Flags := { ignoreCase := ignoreCase }
  set { source with flags := flags }
  let pieces ← alternatives (4 * source.pattern.length + 16) flags true
  let source ← get
  if source.flags.ascii && source.flags.unicode then throw (.ofCause .incompatibleFlags)
  if (← peek).isSome then fail .unbalanced 0
  match source.mentioned.find? fun (group, _) => source.groups.size ≤ group with
  | some (group, position) => failAt (.invalidReference group) position
  | none =>
      match source.deferred with
      | some cause => throw (.ofCause cause)
      | none => return ⟨pieces, source.flags.ignoreCase⟩

end Step

def compile (text : List Char) (ignoreCase : Bool) : Except Fault Pattern := do
  let source : Source := ⟨text, none, text, 0, #[none], [], none, [], {}, none⟩
  let (pattern, _) ← (Step.whole ignoreCase).run source
  return pattern

end WorkflowLint.Regex
