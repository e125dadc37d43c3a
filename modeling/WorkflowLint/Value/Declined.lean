/-!
Contract: what the readers of texts decline.

Declined content is neither given a value nor found at fault.  It is content that `Value` has no room
for, and nesting past a fixed number of levels.
-/

set_option autoImplicit false

namespace WorkflowLint

/-- Levels of nesting that readers follow. -/
def nestingLimit : Nat := 400

inductive Declined where
  /-- Collections inside each other, past `nestingLimit`. -/
  | nesting
  /-- The code of half a surrogate pair, which is no character. -/
  | halfPair
  /-- A collection that holds itself. -/
  | selfContained
  deriving DecidableEq

def isHalfPair (code : Nat) : Bool :=
  0xD800 ≤ code && code ≤ 0xDFFF

end WorkflowLint
