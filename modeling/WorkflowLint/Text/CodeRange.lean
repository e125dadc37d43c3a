/-!
Contract: membership of a code point in a sorted table of closed ranges.

Owns: the range table and its binary search. The tables themselves stand in the modules named for
the character property that they list.
-/

set_option autoImplicit false

namespace WorkflowLint.Text

/-- Closed ranges of code points, in increasing order and without overlap. -/
abbrev CodeRanges := Array (Nat × Nat)

namespace CodeRanges

/-- Binary search between two positions; `steps` bounds the number of halvings. -/
def searchBetween (ranges : CodeRanges) (code : Nat) : Nat → Nat → Nat → Option Nat
  | 0, _, _ => none
  | steps + 1, low, high =>
      if low < high then
        let middle := (low + high) / 2
        match ranges[middle]? with
        | none => none
        | some (first, last) =>
            if code < first then searchBetween ranges code steps low middle
            else if last < code then searchBetween ranges code steps (middle + 1) high
            else some middle
      else none

/-- Position of the range that holds `code`. -/
def find? (ranges : CodeRanges) (code : Nat) : Option Nat :=
  searchBetween ranges code (ranges.size.log2 + 2) 0 ranges.size

/-- A range of the table holds `code`. -/
def contains (ranges : CodeRanges) (code : Nat) : Bool :=
  (find? ranges code).isSome

end CodeRanges

end WorkflowLint.Text
