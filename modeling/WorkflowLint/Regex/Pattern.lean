import WorkflowLint.Regex.CharSet

/-!
Contract: patterns.

Owns: the pieces that a pattern is a sequence of, how many characters a pattern can take, and how
alternatives are put together.
-/

set_option autoImplicit false

namespace WorkflowLint.Regex

/-- A test of a place that takes no character. -/
inductive Anchor where
  | textStart
  | lineStart
  | textEnd
  /-- The end, or before a line end that is the last character. -/
  | lastLineEnd
  | lineEnd
  | boundary (asciiOnly : Bool)
  | noBoundary (asciiOnly : Bool)
  deriving DecidableEq

inductive Appetite where
  | greedy
  | lazy
  /-- As many as possible, and no fewer afterwards. -/
  | possessive
  deriving DecidableEq

/-- Least and greatest number of characters. -/
structure Width where
  least : Nat
  most : Nat
  deriving DecidableEq

/-- A count from this number on stands for no bound. -/
def countLimit : Nat := 4294967295

inductive Piece where
  | char (set : CharSet)
  | anchor (test : Anchor)
  /-- A group with its number, or one that only holds pieces together. -/
  | group (number : Option Nat) (body : List Piece)
  | scoped (body : List Piece)
  | atomic (body : List Piece)
  | branch (alternatives : List (List Piece))
  | times (appetite : Appetite) (least : Nat) (most : Option Nat) (body : List Piece)
  | reference (group : Nat) (width : Width) (mode : CaseMode)
  | conditional (group : Nat) (present : List Piece) (absent : List Piece) (optional : Bool)
  /-- What follows, or what lies so many characters back, does or does not match. -/
  | look (back : Option Nat) (negated : Bool) (body : List Piece)

namespace Width

def zero : Width := ⟨0, 0⟩

def add (left right : Width) : Width :=
  ⟨left.least + right.least, left.most + right.most⟩

def join (left right : Width) : Width :=
  ⟨min left.least right.least, max left.most right.most⟩

def times (width : Width) (least : Nat) (most : Option Nat) : Width :=
  ⟨width.least * least, width.most * most.getD countLimit⟩

/-- Widths are not told apart from a limit on. -/
def capped (width : Width) : Width :=
  ⟨min width.least (countLimit - 1), min width.most countLimit⟩

end Width

mutual

def Piece.width : Piece → Width
  | .char _ => ⟨1, 1⟩
  | .anchor _ => .zero
  | .group _ body => widthOf body
  | .scoped body => widthOf body
  | .atomic body => widthOf body
  | .branch alternatives => widthOfAny alternatives
  | .times _ least most body => (widthOf body).times least most
  | .reference _ width _ => width
  | .conditional _ present absent optional =>
      if optional then { widthOf present with least := 0 }
      else (widthOf present).join (widthOf absent)
  | .look _ _ _ => .zero

def widthSum : List Piece → Width
  | [] => .zero
  | piece :: rest => piece.width.add (widthSum rest)

def widthOf : List Piece → Width
  | pieces => (widthSum pieces).capped

def widthOfAny : List (List Piece) → Width
  | [] => ⟨countLimit - 1, 0⟩
  | first :: rest => (widthOf first).join (widthOfAny rest)

end

/-! ## Alternatives -/

/-- The pieces that a piece stands for in a sequence. -/
def Piece.parts : Piece → List Piece
  | .group none body => body
  | piece => [piece]

/-- Two pieces are the same, as far as pieces without others inside them are compared. -/
def Piece.isSame : Piece → Piece → Bool
  | .char left, .char right => left == right
  | .anchor left, .anchor right => left == right
  | .reference left width mode, .reference right otherWidth otherMode =>
      left == right && width == otherWidth && mode == otherMode
  | _, _ => false

def setOf? : List Piece → Option CharSet
  | [.char set] => if set.negated then none else some set
  | _ => none

/-- A choice of sequences; of sets, the set of all their members. -/
def branchOf (alternatives : List (List Piece)) : Piece :=
  match alternatives.mapM setOf? with
  | some (first :: others) =>
      .char { first with items := (first.items ++ others.flatMap CharSet.items).eraseDups }
  | _ => .branch alternatives

/-- A choice between a sequence and others, with the pieces in front that all of them share. -/
def choice : List Piece → List (List Piece) → List Piece
  | [], others => [branchOf ([] :: others)]
  | piece :: first, others =>
      if others.all fun other => other.head?.any piece.isSame then
        piece :: choice first (others.map List.tail)
      else [branchOf ((piece :: first) :: others)]

structure Pattern where
  pieces : List Piece
  ignoresCase : Bool

end WorkflowLint.Regex
