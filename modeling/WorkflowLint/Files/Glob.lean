/-!
Contract: name patterns with wildcards.

Owns: the pieces of a pattern and when a name matches.  A star stands for any text, slashes included,
a question mark for any character, and brackets for one of several characters.  Brackets that are not
closed stand for themselves.
-/

set_option autoImplicit false

namespace WorkflowLint.Glob

inductive Piece where
  | char (c : Char)
  | anyChar
  | anyText
  /-- One character inside the ranges, or outside all of them. -/
  | oneOf (negated : Bool) (ranges : List (Char × Char))
  deriving DecidableEq

/-! ## Brackets -/

/-- The text between brackets and what follows them.  A closing bracket directly after the opening
one, or after its exclamation mark, belongs to the text. -/
def bracketText? (text : List Char) : Option (List Char × List Char) :=
  let (head, tail) := match text with
    | '!' :: ']' :: rest => (['!', ']'], rest)
    | '!' :: rest => (['!'], rest)
    | ']' :: rest => ([']'], rest)
    | rest => ([], rest)
  match tail.dropWhile (· != ']') with
  | _ :: rest => some (head ++ tail.takeWhile (· != ']'), rest)
  | [] => none

/-- The parts between the hyphens that form ranges.  At least `wait` characters stand before a hyphen
that counts; after it there are at least two. -/
def rangeParts (wait : Nat) (current : List Char) : List Char → List (List Char)
  | [] => [current.reverse]
  | c :: rest =>
      match wait with
      | 0 =>
          if c == '-' then current.reverse :: rangeParts 2 [] rest
          else rangeParts 0 (c :: current) rest
      | wait + 1 => rangeParts wait (c :: current) rest

/-- A hyphen at the end stands for itself. -/
def closeHyphen : List (List Char) → List (List Char)
  | [] => []
  | [part] => [part]
  | [part, []] => [part ++ ['-']]
  | part :: rest => part :: closeHyphen rest

/-- The range from the end of a part to the start of the next holds nothing. -/
def isEmptyRange (left right : List Char) : Bool :=
  match left.getLast?, right.head? with
  | some low, some high => high < low
  | _, _ => false

/-- Join the parts around ranges that hold nothing, without the ends of those ranges. -/
def dropEmptyRanges : List (List Char) → List (List Char)
  | [] => []
  | part :: rest =>
      match dropEmptyRanges rest with
      | [] => [part]
      | next :: more =>
          if isEmptyRange part next then (part.dropLast ++ next.drop 1) :: more
          else part :: next :: more

/-- The ranges of parts: each character, and from the end of a part to the start of the next. -/
def rangesOf : List (List Char) → List (Char × Char)
  | [] => []
  | [part] => part.map fun c => (c, c)
  | part :: next :: rest =>
      let joined := match part.getLast?, next.head? with
        | some low, some high => [(low, high)]
        | _, _ => []
      (part.map fun c => (c, c)) ++ joined ++ rangesOf (next :: rest)

def bracketPiece (text : List Char) : Piece :=
  let wait := if text.head? == some '!' then 2 else 1
  match dropEmptyRanges (closeHyphen (rangeParts wait [] text)) with
  | [['!']] => .anyChar
  | ('!' :: part) :: rest => .oneOf true (rangesOf (part :: rest))
  | parts => .oneOf false (rangesOf parts)

/-! ## Patterns -/

/-- The pieces of a pattern; `fuel` is at least the length of the text. -/
def piecesFrom : Nat → List Char → List Piece
  | 0, _ => []
  | _, [] => []
  | fuel + 1, '*' :: rest => .anyText :: piecesFrom fuel rest
  | fuel + 1, '?' :: rest => .anyChar :: piecesFrom fuel rest
  | fuel + 1, '[' :: rest =>
      match bracketText? rest with
      | some (text, after) => bracketPiece text :: piecesFrom fuel after
      | none => .char '[' :: piecesFrom fuel rest
  | fuel + 1, c :: rest => .char c :: piecesFrom fuel rest

def pieces (pattern : List Char) : List Piece := piecesFrom pattern.length pattern

def Piece.accepts (c : Char) : Piece → Bool
  | .char own => own == c
  | .anyChar => true
  | .anyText => false
  | .oneOf negated ranges => (ranges.any fun (low, high) => low ≤ c && c ≤ high) != negated

/-- A test holds of a text, or of what is left when characters are dropped from its front. -/
def holdsOfSuffix (test : List Char → Bool) : List Char → Bool
  | [] => test []
  | c :: text => test (c :: text) || holdsOfSuffix test text

def matchesAll : List Piece → List Char → Bool
  | [], text => text.isEmpty
  | .anyText :: rest, text => holdsOfSuffix (matchesAll rest) text
  | _ :: _, [] => false
  | piece :: rest, c :: text => piece.accepts c && matchesAll rest text

def fits (pattern name : String) : Bool :=
  matchesAll (pieces pattern.toList) name.toList

/-- A pattern in front of which any folders may stand also matches without them. -/
def fitsAnywhere (pattern name : String) : Bool :=
  fits pattern name ||
    match pattern.toList with
    | '*' :: '*' :: '/' :: rest => matchesAll (pieces rest) name.toList
    | _ => false

def isIgnored (patterns : List String) (path : String) : Bool :=
  patterns.any fun pattern => fitsAnywhere pattern path

end WorkflowLint.Glob
