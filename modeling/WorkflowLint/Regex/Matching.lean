import WorkflowLint.Regex.Compile

/-!
Contract: where a pattern matches a text.

Owns: the matcher.  It follows the pieces and hands each place it reaches to the rest of the
pattern, so the first place that the rest accepts wins.  A repetition stops when a round beyond the
least count takes no character, which bounds the number of rounds by the length of the text.
-/

set_option autoImplicit false

namespace WorkflowLint.Regex

/-- A place in the text with the spans of the groups closed so far. -/
structure Place where
  index : Nat
  groups : List (Nat × Nat × Nat)

/-- What is left to match: the places it ends at are tried in order until one is accepted. -/
abbrev Next := Place → Option Place

/-- A matcher hands the places it reaches to what is left. -/
abbrev Matcher := Place → Next → Option Place

def isWordAt (text : Array Char) (asciiOnly : Bool) (index : Nat) : Bool :=
  match text[index]? with
  | some c => Category.word.holds asciiOnly c
  | none => false

def atBoundary (text : Array Char) (asciiOnly : Bool) (index : Nat) : Bool :=
  let before := index != 0 && isWordAt text asciiOnly (index - 1)
  before != isWordAt text asciiOnly index

/-- The test holds at an index.  Boundaries of either kind need a text that is not empty. -/
def Anchor.holds (text : Array Char) (index : Nat) : Anchor → Bool
  | .textStart => index == 0
  | .lineStart => index == 0 || text[index - 1]? == some '\n'
  | .textEnd => index == text.size
  | .lastLineEnd =>
      index == text.size || (index + 1 == text.size && text[index]? == some '\n')
  | .lineEnd => index == text.size || text[index]? == some '\n'
  | .boundary asciiOnly => text.size != 0 && atBoundary text asciiOnly index
  | .noBoundary asciiOnly => text.size != 0 && !atBoundary text asciiOnly index

def allowsMore (most : Option Nat) (rounds : Nat) : Bool :=
  match most with
  | none => true
  | some bound => rounds < bound

/-- Rounds of a repetition that takes as many as it can.  `last` is the place where the last round
beyond the least count started. -/
def greedyRounds (round : Matcher) (least : Nat) (most : Option Nat) :
    Nat → Nat → Option Nat → Matcher
  | 0, _, _, _, _ => none
  | fuel + 1, rounds, last, place, next =>
      if rounds < least then
        round place fun after => greedyRounds round least most fuel (rounds + 1) last after next
      else
        let more :=
          if allowsMore most rounds && last != some place.index then
            round place fun after =>
              greedyRounds round least most fuel (rounds + 1) (some place.index) after next
          else none
        match more with
        | some found => some found
        | none => next place

/-- Rounds of a repetition that takes as few as it can. -/
def lazyRounds (round : Matcher) (least : Nat) (most : Option Nat) :
    Nat → Nat → Option Nat → Matcher
  | 0, _, _, _, _ => none
  | fuel + 1, rounds, last, place, next =>
      if rounds < least then
        round place fun after => lazyRounds round least most fuel (rounds + 1) last after next
      else
        match next place with
        | some found => some found
        | none =>
            if allowsMore most rounds && last != some place.index then
              round place fun after =>
                lazyRounds round least most fuel (rounds + 1) (some place.index) after next
            else none

/-- The place where a repetition that gives nothing back ends. -/
def possessiveRounds (round : Matcher) (least : Nat) (most : Option Nat) :
    Nat → Nat → Place → Option Place
  | 0, _, _ => none
  | fuel + 1, rounds, place =>
      if rounds < least then
        match round place some with
        | some after => possessiveRounds round least most fuel (rounds + 1) after
        | none => none
      else if allowsMore most rounds then
        match round place some with
        | some after =>
            if after.index == place.index then some after
            else possessiveRounds round least most fuel (rounds + 1) after
        | none => some place
      else some place

/-- Number of characters by which two parts of the text agree from two indices on. -/
def agrees (text : Array Char) (mode : CaseMode) (left right : Nat) : Nat → Bool
  | 0 => true
  | count + 1 =>
      match text[left]?, text[right]? with
      | some a, some b =>
          mode.fold a.toNat == mode.fold b.toNat && agrees text mode (left + 1) (right + 1) count
      | _, _ => false

mutual

def matchPiece (text : Array Char) : Piece → Matcher
  | .char set, place, next =>
      match text[place.index]? with
      | some c => if set.admits c then next { place with index := place.index + 1 } else none
      | none => none
  | .anchor test, place, next => if test.holds text place.index then next place else none
  | .group none body, place, next => matchPieces text body place next
  | .scoped body, place, next => matchPieces text body place next
  | .group (some number) body, place, next =>
      matchPieces text body place fun after =>
        next { after with groups := (number, place.index, after.index) :: after.groups }
  | .atomic body, place, next =>
      match matchPieces text body place some with
      | some after => next after
      | none => none
  | .branch alternatives, place, next => matchAny text alternatives place next
  | .times appetite least most body, place, next =>
      let round : Matcher := fun place next => matchPieces text body place next
      let fuel := least + text.size + 2
      match appetite with
      | .greedy => greedyRounds round least most fuel 0 none place next
      | .lazy => lazyRounds round least most fuel 0 none place next
      | .possessive =>
          match possessiveRounds round least most fuel 0 place with
          | some after => next after
          | none => none
  | .reference group _ mode, place, next =>
      match place.groups.lookup group with
      | some (first, last) =>
          if agrees text mode first place.index (last - first) then
            next { place with index := place.index + (last - first) }
          else none
      | none => none
  | .conditional group present absent _, place, next =>
      if (place.groups.lookup group).isSome then matchPieces text present place next
      else matchPieces text absent place next
  | .look back negated body, place, next =>
      let width := back.getD 0
      let found :=
        if place.index < width then none
        else matchPieces text body { place with index := place.index - width } some
      match found, negated with
      | some after, false => next { after with index := place.index }
      | none, true => next place
      | _, _ => none

def matchPieces (text : Array Char) : List Piece → Matcher
  | [], place, next => next place
  | piece :: rest, place, next =>
      matchPiece text piece place fun after => matchPieces text rest after next

def matchAny (text : Array Char) : List (List Piece) → Matcher
  | [], _, _ => none
  | first :: rest, place, next =>
      match matchPieces text first place next with
      | some found => some found
      | none => matchAny text rest place next

end

namespace Pattern

def endAt? (pattern : Pattern) (text : Array Char) (start : Nat) : Option Nat :=
  (matchPieces text pattern.pieces ⟨start, []⟩ some).map (·.index)

/-- The first match of the text, as the indices of its start and end. -/
def search? (pattern : Pattern) (text : List Char) : Option (Nat × Nat) :=
  let chars := text.toArray
  (List.range (chars.size + 1)).findSome? fun start =>
    (pattern.endAt? chars start).map fun stop => (start, stop)

def occursIn (pattern : Pattern) (text : String) : Bool :=
  (pattern.search? text.toList).isSome

end Pattern

end WorkflowLint.Regex
