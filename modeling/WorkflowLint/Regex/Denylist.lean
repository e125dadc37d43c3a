import WorkflowLint.Regex.Matching

/-!
Contract: patterns as denylists write them.

A leading `(?i)` makes the whole pattern disregard case and is no part of the pattern text, so
positions in faults do not count it.
-/

set_option autoImplicit false

namespace WorkflowLint.Regex

def ofEntry (entry : String) : Except Fault Pattern :=
  match entry.toList with
  | '(' :: '?' :: 'i' :: ')' :: rest => compile rest true
  | text => compile text false

end WorkflowLint.Regex
