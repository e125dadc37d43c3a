import WorkflowLint.Text.Case

/-!
Contract: search for literal keywords without regard to case.

A keyword occurs in a text when some stretch of the text has the keyword's length and matches it
character by character.  A keyword has no pattern characters.  An empty table of keywords occurs in
every text.

Keywords that differ in their last letter only are sought as one set of letters.  In such a set a
capital past sixteen bits is lost, since it is not lowered as the letters of the text are.
-/

set_option autoImplicit false

namespace WorkflowLint.Text

def startsWith : List Char → List Char → Bool
  | [], _ => true
  | _ :: _, [] => false
  | k :: keyword, c :: text => sameIgnoringCase k c && startsWith keyword text

def occursIn (keyword : List Char) : List Char → Bool
  | [] => startsWith keyword []
  | c :: text => startsWith keyword (c :: text) || occursIn keyword text

def standsIn (part : List Char) : List Char → Bool
  | [] => part.isEmpty
  | c :: text => part.isPrefixOf (c :: text) || standsIn part text

def anyOccursIn (keywords : List String) (text : List Char) : Bool :=
  keywords.any fun keyword => occursIn keyword.toList text

/-- What is left of words behind the letters that all of them start with. -/
def endings : List Char → List (List Char) → List (List Char)
  | [], others => [] :: others
  | c :: first, others =>
      if others.all fun other => other.head? == some c then endings first (others.map List.tail)
      else (c :: first) :: others

/-- Several words differ in their last letter only. -/
def areLetters : List (List Char) → Bool
  | first :: next :: others => (endings first (next :: others)).all fun ending => ending.length == 1
  | _ => false

/-- A letter past sixteen bits that has a lower case. -/
def isFarCapital (c : Char) : Bool :=
  0xFFFF < c.toNat && foldCode c.toNat != c.toNat

/-- The keywords that are found when all of them are sought at once. -/
def sought (keywords : List String) : List String :=
  if areLetters (keywords.map String.toList) then
    keywords.filter fun keyword => !keyword.toList.getLast?.any isFarCapital
  else keywords

structure KeywordTable where
  keywords : List String

namespace KeywordTable

/-- A text that is not empty holds one of the keywords. -/
def holds (table : KeywordTable) (text : List Char) : Bool :=
  !text.isEmpty && (table.keywords.isEmpty || anyOccursIn (sought table.keywords) text)

/-- The text holds one of the keywords; without a text nothing does. -/
def matchesText (table : KeywordTable) : Option String → Bool
  | none => false
  | some text => table.holds text.toList

end KeywordTable

/-- The first keyword and, later on the same line, the second. -/
def occurInLine (first second : List Char) : List Char → Bool
  | [] => false
  | c :: text =>
      (startsWith first (c :: text) &&
        occursIn second (((c :: text).drop first.length).takeWhile (· != '\n'))) ||
        occurInLine first second text

end WorkflowLint.Text
