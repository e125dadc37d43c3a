import WorkflowLint.Regex.Matching

/-!
Contract: pattern texts that match given texts as they are written.

A character that means something in pattern texts is spelled with a backslash, so a bar can only stand
between two of the given texts.
-/

set_option autoImplicit false

namespace WorkflowLint.Regex

def specials : List Char :=
  ['(', ')', '[', ']', '\x7b', '\x7d', '?', '*', '+', '-', '|', '^', '$', '\\', '.', '&', '~', '#',
    ' ', '\t', '\n', '\r', '\x0b', '\x0c']

def spelling (c : Char) : List Char := if c ∈ specials then ['\\', c] else [c]

def escape (text : List Char) : List Char := text.flatMap spelling

/-- The pattern text with the given texts as its alternatives. -/
def anyOf (texts : List String) : List Char :=
  ['|'].intercalate (texts.map fun text => escape text.toList)

end WorkflowLint.Regex
