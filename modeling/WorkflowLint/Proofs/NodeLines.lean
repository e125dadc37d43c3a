import Mathlib.Data.List.Nodup
import Mathlib.Data.List.TakeWhile
import WorkflowLint.Proofs.GraphEdges

/-!
Contract: the source lines of nodes.

A text falls into lines, and a line has a first pair for each key.  With distinct ids, a node has the
last line whose first name is its own, or else the last line whose first id is its own.  Only the lines
without their ends count, so the lines of nodes are the same when every line feed gets a carriage return.
Main statement: `node_lines_recovered`.
-/

set_option autoImplicit false

namespace WorkflowLint.Document

/-! ## Lines -/

/-- A text falls into lines.  A carriage return directly before a line feed belongs to the end of the
line, and any other to the line. -/
inductive FallsInto : List Char → List (List Char) → Prop where
  | last {line : List Char} (whole : '\n' ∉ line) : FallsInto line [line]
  | fed {line text : List Char} {lines : List (List Char)} (whole : '\n' ∉ line)
      (bare : line.getLast? ≠ some '\r') (rest : FallsInto text lines) :
      FallsInto (line ++ '\n' :: text) (line :: lines)
  | returned {line text : List Char} {lines : List (List Char)} (whole : '\n' ∉ line)
      (rest : FallsInto text lines) : FallsInto (line ++ '\r' :: '\n' :: text) (line :: lines)

private theorem splitLines_cons {c : Char} {rest line : List Char} {lines : List (List Char)}
    (plain : c ≠ '\n') (bare : c = '\r' → rest.head? ≠ some '\n')
    (splits : splitLines rest = line :: lines) : splitLines (c :: rest) = (c :: line) :: lines := by
  rw [splitLines]
  · simp only [splits]
  · exact plain
  · rintro after rfl rfl
    exact bare rfl rfl

theorem splitLines_append {line rest : List Char} {first : List Char} {lines : List (List Char)}
    (whole : '\n' ∉ line) (bare : line.getLast? = some '\r' → rest.head? ≠ some '\n')
    (splits : splitLines rest = first :: lines) :
    splitLines (line ++ rest) = (line ++ first) :: lines := by
  induction line with
  | nil => exact splits
  | cons c line inductionHypothesis =>
      rw [List.mem_cons, not_or] at whole
      rw [List.cons_append, List.cons_append]
      refine splitLines_cons (Ne.symm whole.1) ?_ (inductionHypothesis whole.2 ?_)
      · rintro rfl
        cases line with
        | nil => exact bare rfl
        | cons next line =>
            have apart : next ≠ '\n' := fun isIt => whole.2 (by simp [isIt])
            simpa using apart
      · intro ends
        apply bare
        cases line with
        | nil => cases ends
        | cons next line => simpa using ends

theorem FallsInto.splitLines_eq {text : List Char} {lines : List (List Char)}
    (falls : FallsInto text lines) : splitLines text = lines := by
  induction falls with
  | @last line whole =>
      have splits : splitLines (line ++ []) = (line ++ []) :: [] :=
        splitLines_append whole (by simp) rfl
      simpa using splits
  | @fed line text lines whole bare rest inductionHypothesis =>
      have splits : splitLines ('\n' :: text) = [] :: lines := by
        rw [splitLines, inductionHypothesis]
      have splits := splitLines_append whole (fun ends => absurd ends bare) splits
      simpa using splits
  | @returned line text lines whole rest inductionHypothesis =>
      have splits : splitLines ('\r' :: '\n' :: text) = [] :: lines := by
        rw [splitLines, inductionHypothesis]
      have splits := splitLines_append whole (by simp) splits
      simpa using splits

theorem FallsInto.cons {c : Char} {rest line : List Char} {lines : List (List Char)}
    (falls : FallsInto rest (line :: lines)) (plain : c ≠ '\n')
    (bare : c = '\r' → rest.head? ≠ some '\n') : FallsInto (c :: rest) ((c :: line) :: lines) := by
  cases falls with
  | last whole => exact .last (List.not_mem_cons_of_ne_of_not_mem plain.symm whole)
  | fed whole ends rest =>
      refine .fed (List.not_mem_cons_of_ne_of_not_mem plain.symm whole) ?_ rest
      cases line with
      | nil =>
          intro isReturn
          exact bare (by simpa using isReturn) rfl
      | cons next line => simpa using ends
  | returned whole rest =>
      exact .returned (List.not_mem_cons_of_ne_of_not_mem plain.symm whole) rest

theorem fallsInto_splitLines (text : List Char) : FallsInto text (splitLines text) := by
  fun_induction splitLines text with
  | case1 => exact .last (by simp)
  | case2 rest inductionHypothesis =>
      rw [← List.nil_append ('\n' :: rest)]
      exact .fed (by simp) (by simp) inductionHypothesis
  | case3 rest inductionHypothesis =>
      rw [← List.nil_append ('\r' :: '\n' :: rest)]
      exact .returned (by simp) inductionHypothesis
  | case4 c rest notFeed notBoth line lines splits inductionHypothesis =>
      rw [splits] at inductionHypothesis
      refine inductionHypothesis.cons notFeed fun isReturn starts => ?_
      obtain ⟨after, isRest⟩ := List.head?_eq_some_iff.mp starts
      exact notBoth after isReturn isRest
  | case5 c rest notFeed notBoth noLines inductionHypothesis =>
      rw [noLines] at inductionHypothesis
      cases inductionHypothesis

private theorem fallsInto_iff {text : List Char} {lines : List (List Char)} :
    FallsInto text lines ↔ lines = splitLines text := by
  constructor
  · intro falls
    exact falls.splitLines_eq.symm
  · rintro rfl
    exact fallsInto_splitLines text

/-! ## Pairs -/

/-- A pair with a key and a value stands at the front of a text. -/
def PairAt (key value text : List Char) : Prop :=
  ∃ blanks rest, (∀ c ∈ blanks, Text.isBlank c = true) ∧ value ≠ [] ∧ '"' ∉ value ∧
    text = ('"' :: key ++ ['"', ':']) ++ (blanks ++ '"' :: (value ++ '"' :: rest))

/-- The first pair with a key in a line. -/
def FirstPair (key value line : List Char) : Prop :=
  ∃ before after, line = before ++ after ∧ PairAt key value after ∧
    ∀ earlier later other, line = earlier ++ later → earlier.length < before.length →
      ¬ PairAt key other later

private theorem afterText_eq_some_iff {keyword text rest : List Char} :
    afterText keyword text = some rest ↔ text = keyword ++ rest := by
  induction keyword generalizing text with
  | nil => simp [afterText]
  | cons k keyword inductionHypothesis =>
      cases text with
      | nil => simp [afterText]
      | cons c text =>
          rw [afterText]
          by_cases same : k = c
          · simp [same, inductionHypothesis]
          · simp [same, Ne.symm same]

theorem takeWhile_append_of_stop {α : Type} {test : α → Bool} {front rest : List α} {stop : α}
    (passes : ∀ item ∈ front, test item = true) (stops : test stop = false) :
    (front ++ stop :: rest).takeWhile test = front ∧
      (front ++ stop :: rest).dropWhile test = stop :: rest := by
  rw [List.takeWhile_append_of_pos passes, List.dropWhile_append_of_pos passes]
  simp [stops]

/-- A text up to its first quotation mark. -/
theorem takeWhile_quote_iff {text value : List Char} :
    (text.takeWhile (· != '"') = value ∧ value.length ≠ text.length) ↔
      '"' ∉ value ∧ ∃ rest, text = value ++ '"' :: rest := by
  constructor
  · rintro ⟨rfl, shorter⟩
    refine ⟨fun member => ?_, ?_⟩
    · simpa using List.mem_takeWhile_imp member
    · have parts := List.takeWhile_append_dropWhile (p := (· != '"')) (l := text)
      cases after : text.dropWhile (· != '"') with
      | nil =>
          rw [after, List.append_nil] at parts
          exact absurd (congrArg List.length parts) shorter
      | cons c rest =>
          have isQuote : c = '"' := by
            have stops := List.head?_dropWhile_not (p := (· != '"')) (l := text)
            simpa [after] using stops
          rw [after, isQuote] at parts
          exact ⟨rest, parts.symm⟩
  · rintro ⟨unquoted, rest, rfl⟩
    have passes : ∀ c ∈ value, (c != '"') = true := by
      intro c member
      rw [bne_iff_ne]
      rintro rfl
      exact unquoted member
    exact ⟨(takeWhile_append_of_stop passes (by decide)).1, by simp⟩

theorem pairAt?_eq_some_iff {key value text : List Char} :
    pairAt? key text = some value ↔ PairAt key value text := by
  have closes {quoted : List Char} :
      (if (quoted.takeWhile (· != '"')).isEmpty ||
          (quoted.takeWhile (· != '"')).length == quoted.length then none
        else some (quoted.takeWhile (· != '"'))) = some value ↔
      value ≠ [] ∧ '"' ∉ value ∧ ∃ rest, quoted = value ++ '"' :: rest := by
    rw [← takeWhile_quote_iff, ite_eq_iff]
    simp only [Bool.or_eq_true, List.isEmpty_iff, beq_iff_eq, not_or, Option.some.injEq]
    constructor
    · rintro (⟨-, isNone⟩ | ⟨⟨filled, shorter⟩, rfl⟩)
      · cases isNone
      · exact ⟨filled, rfl, shorter⟩
    · rintro ⟨filled, rfl, shorter⟩
      exact .inr ⟨⟨filled, shorter⟩, rfl⟩
  unfold pairAt?
  simp only [Option.bind_eq_bind, Option.bind_eq_some_iff, afterText_eq_some_iff, closes]
  constructor
  · rintro ⟨rest, rfl, quoted, isQuoted, filled, unquoted, after, rfl⟩
    refine ⟨rest.takeWhile Text.isBlank, after, fun c => List.mem_takeWhile_imp, filled, unquoted, ?_⟩
    have parts := List.takeWhile_append_dropWhile (p := Text.isBlank) (l := rest)
    rw [isQuoted] at parts
    exact congrArg _ parts.symm
  · rintro ⟨blanks, rest, blank, filled, unquoted, rfl⟩
    refine ⟨_, rfl, value ++ '"' :: rest, ?_, filled, unquoted, rest, rfl⟩
    exact (takeWhile_append_of_stop blank (by decide)).2

theorem PairAt.unique {key value other text : List Char} (pair : PairAt key value text)
    (otherPair : PairAt key other text) : value = other := by
  rw [← pairAt?_eq_some_iff] at pair otherPair
  exact Option.some.inj (pair.symm.trans otherPair)

theorem not_firstPair_nil {key value : List Char} : ¬ FirstPair key value [] := by
  rintro ⟨before, after, isEmpty, ⟨blanks, rest, _, _, _, rfl⟩, _⟩
  simp at isEmpty

theorem firstPair_cons_iff {key value rest : List Char} {c : Char} :
    FirstPair key value (c :: rest) ↔
      PairAt key value (c :: rest) ∨
        (∀ other, ¬ PairAt key other (c :: rest)) ∧ FirstPair key value rest := by
  constructor
  · rintro ⟨before, after, isLine, isPair, none⟩
    cases before with
    | nil =>
        rw [List.nil_append] at isLine
        exact .inl (isLine ▸ isPair)
    | cons first before =>
        obtain ⟨rfl, rfl⟩ := List.cons.inj isLine
        refine .inr ⟨fun other => none [] _ other rfl (by simp), before, after, rfl, isPair, ?_⟩
        intro earlier later other isRest shorter
        exact none (c :: earlier) later other (congrArg _ isRest) (by simpa using shorter)
  · rintro (isPair | ⟨noPair, before, after, rfl, isPair, none⟩)
    · exact ⟨[], c :: rest, rfl, isPair, by simp⟩
    · refine ⟨c :: before, after, rfl, isPair, ?_⟩
      intro earlier later other isLine shorter
      cases earlier with
      | nil =>
          rw [List.nil_append] at isLine
          exact isLine ▸ noPair other
      | cons first earlier =>
          obtain ⟨rfl, isRest⟩ := List.cons.inj isLine
          exact none earlier later other isRest (by simpa using shorter)

theorem firstPair?_eq_some_iff {key value line : List Char} :
    firstPair? key line = some value ↔ FirstPair key value line := by
  induction line with
  | nil => simp [firstPair?, not_firstPair_nil]
  | cons c rest inductionHypothesis =>
      rw [firstPair?, firstPair_cons_iff]
      cases here : pairAt? key (c :: rest) with
      | some found =>
          have pair := pairAt?_eq_some_iff.mp here
          constructor
          · rintro ⟨rfl⟩
            exact .inl pair
          · rintro (isPair | ⟨noPair, _⟩)
            · exact congrArg some (pair.unique isPair)
            · exact absurd pair (noPair found)
      | none =>
          have noPair : ∀ other, ¬ PairAt key other (c :: rest) := by
            intro other pair
            rw [← pairAt?_eq_some_iff, here] at pair
            cases pair
          simp [inductionHypothesis, noPair]

/-! ## The last line with a value -/

/-- The number, from one on, of the last line whose first pair with a key has a value. -/
def LastLine (key value : List Char) (lines : List (List Char)) (number : Nat) : Prop :=
  ∃ before line after, lines = before ++ line :: after ∧ FirstPair key value line ∧
    (∀ later ∈ after, ¬ FirstPair key value later) ∧ number = before.length + 1

section

variable {key : List Char} {value : String} {lines : List (List Char)}

theorem find?_values_eq_none (absent : ∀ line ∈ lines, ¬ FirstPair key value.toList line)
    (start : Nat) :
    ((lines.map (firstPair? key)).zipIdx start).reverse.find?
      (fun entry => entry.1 == some value.toList) = none := by
  rw [List.find?_eq_none]
  intro entry member isValue
  obtain ⟨line, listed, isFirst⟩ :=
    List.mem_map.mp (List.fst_mem_of_mem_zipIdx (List.mem_reverse.mp member))
  rw [beq_iff_eq, ← isFirst, firstPair?_eq_some_iff] at isValue
  exact absent line listed isValue

private theorem lastLine?_eq_none (absent : ∀ line ∈ lines, ¬ FirstPair key value.toList line) :
    lastLine? value (lines.map (firstPair? key)) = none := by
  rw [lastLine?, find?_values_eq_none absent]
  rfl

theorem LastLine.lastLine?_eq {number : Nat} (last : LastLine key value.toList lines number) :
    lastLine? value (lines.map (firstPair? key)) = some number := by
  obtain ⟨before, line, after, rfl, own, none, rfl⟩ := last
  rw [← firstPair?_eq_some_iff] at own
  rw [lastLine?, List.map_append, List.map_cons, List.zipIdx_append, List.zipIdx_cons,
    List.reverse_append, List.reverse_cons, List.find?_append, List.find?_append,
    find?_values_eq_none none, own]
  simp [Nat.add_comm]

end

theorem lastLine?_eq_some_iff {key : List Char} {value : String} {lines : List (List Char)}
    {number : Nat} :
    lastLine? value (lines.map (firstPair? key)) = some number ↔
      LastLine key value.toList lines number := by
  refine ⟨fun isNumber => ?_, LastLine.lastLine?_eq⟩
  by_cases absent : ∀ line ∈ lines, ¬ FirstPair key value.toList line
  · rw [lastLine?_eq_none absent] at isNumber
    cases isNumber
  · obtain ⟨line, member, own⟩ : ∃ line ∈ lines, FirstPair key value.toList line := by
      simpa using absent
    obtain ⟨last, before, after, isLines, owned, none⟩ := exists_isLast member own
    have isLast : LastLine key value.toList lines (before.length + 1) :=
      ⟨before, last, after, isLines, owned, none, rfl⟩
    rw [isLast.lastLine?_eq] at isNumber
    cases isNumber
    exact isLast

theorem LastLine.bounds {key value : List Char} {lines : List (List Char)} {number : Nat}
    (last : LastLine key value lines number) : 1 ≤ number ∧ number ≤ lines.length := by
  obtain ⟨before, line, after, rfl, _, _, rfl⟩ := last
  simp only [List.length_append, List.length_cons]
  omega

/-! ## The line of a node -/

/-- The line of a node: the last line with its name, or else the last line with its id. -/
inductive Located (lines : List (List Char)) (node : Node) (number : Nat) : Prop where
  | byName {name : String} (isName : node.name = some name) (filled : name ≠ "")
      (last : LastLine "name".toList name.toList lines number)
  | byId
      (nameless : ∀ name, node.name = some name → name ≠ "" →
        ∀ other, ¬ LastLine "name".toList name.toList lines other)
      (last : LastLine "id".toList node.id.toList lines number)

theorem Located.bounds {lines : List (List Char)} {node : Node} {number : Nat}
    (located : Located lines node number) : 1 ≤ number ∧ number ≤ lines.length := by
  cases located with
  | byName _ _ last => exact last.bounds
  | byId _ last => exact last.bounds

private theorem lineOf?_eq_some_iff {text : List Char} {node : Node} {number : Nat} :
    (lineValues text).lineOf? (some node.id) node.name = some number ↔
      Located (splitLines text) node number := by
  have byName {name : String} {other : Nat} :
      lastLine? name (lineValues text).names = some other ↔
        LastLine "name".toList name.toList (splitLines text) other :=
    lastLine?_eq_some_iff
  have byId : lastLine? node.id (lineValues text).ids = some number ↔
      LastLine "id".toList node.id.toList (splitLines text) number :=
    lastLine?_eq_some_iff
  have named (other : Nat) :
      ((node.name.filter (!·.isEmpty)).bind fun name => lastLine? name (lineValues text).names) =
          some other ↔
        ∃ name, node.name = some name ∧ name ≠ "" ∧
          LastLine "name".toList name.toList (splitLines text) other := by
    simp [Option.bind_eq_some_iff, Option.filter_eq_some_iff, byName, and_assoc]
  unfold LineValues.lineOf?
  dsimp only [Option.bind_some]
  rw [Option.or_eq_some_iff, named, byId, Option.eq_none_iff_forall_ne_some]
  constructor
  · rintro (⟨name, isName, filled, last⟩ | ⟨none, last⟩)
    · exact .byName isName filled last
    · refine .byId (fun name isName filled other isLast => ?_) last
      exact none other ((named other).mpr ⟨name, isName, filled, isLast⟩)
  · rintro (⟨isName, filled, last⟩ | ⟨nameless, last⟩)
    · exact .inl ⟨_, isName, filled, last⟩
    · refine .inr ⟨fun other found => ?_, last⟩
      obtain ⟨name, isName, filled, isLast⟩ := (named other).mp found
      exact nameless name isName filled other isLast

/-- The line of a node as an entry under its id. -/
def entryOf? (text : List Char) (node : Node) : Option (String × Int) :=
  ((lineValues text).lineOf? (some node.id) node.name).map fun line : Nat => (node.id, (line : Int))

theorem fst_of_entryOf? {text : List Char} {node : Node} {entry : String × Int}
    (isEntry : entryOf? text node = some entry) : entry.1 = node.id := by
  obtain ⟨line, _, rfl⟩ := Option.map_eq_some_iff.mp isEntry
  rfl

private theorem enterLine_of_new {id : Value} {line : Nat} {found : List (Value × Int)}
    (new : ∀ entry ∈ found, id.same entry.1 = false) :
    enterLine id line found = found ++ [(id, (line : Int))] := by
  induction found with
  | nil => rfl
  | cons first rest inductionHypothesis =>
      obtain ⟨own, others⟩ := List.forall_mem_cons.mp new
      rw [enterLine, if_neg (by simpa using own), inductionHypothesis others, List.cons_append]

private theorem enterNode_of_new {text : List Char} {found : List (Value × Int)} {node : Node}
    (new : ∀ entry ∈ found, entry.1 ≠ .str node.id) :
    enterNode (lineValues text) found (lineLabel node) =
      found ++ ((entryOf? text node).map fun entry => (Value.str entry.1, entry.2)).toList := by
  have isName : (lineLabel node).2.text? = node.name := by
    unfold lineLabel
    cases node.name with
    | none => rfl
    | some name => rfl
  have isId : (lineLabel node).1.text? = some node.id := rfl
  unfold enterNode entryOf?
  rw [isId, isName]
  cases (lineValues text).lineOf? (some node.id) node.name with
  | none => simp
  | some line =>
      apply enterLine_of_new
      intro entry member
      rw [lineLabel, ← Bool.not_eq_true, Value.same_str_iff]
      exact new entry member

private theorem foldl_enterNode {text : List Char} {nodes : List Node}
    (distinct : (nodes.map Node.id).Nodup) {found : List (Value × Int)}
    (new : ∀ node ∈ nodes, ∀ entry ∈ found, entry.1 ≠ .str node.id) :
    (nodes.map lineLabel).foldl (enterNode (lineValues text)) found =
      found ++ (nodes.filterMap (entryOf? text)).map fun entry => (Value.str entry.1, entry.2) := by
  induction nodes generalizing found with
  | nil => simp
  | cons node rest inductionHypothesis =>
      rw [List.map_cons, List.nodup_cons] at distinct
      obtain ⟨own, others⟩ := List.forall_mem_cons.mp new
      rw [List.map_cons, List.foldl_cons, enterNode_of_new own]
      cases isEntry : entryOf? text node with
      | none => simpa [isEntry] using inductionHypothesis distinct.2 others
      | some entry =>
          have isId := fst_of_entryOf? isEntry
          rw [inductionHypothesis distinct.2]
          · simp [isEntry]
          · intro later listed other member
            rcases List.mem_append.mp member with before | entered
            · exact others later listed other before
            · obtain rfl : other = (.str entry.1, entry.2) := by simpa using entered
              intro same
              rw [isId, Value.str.injEq] at same
              exact distinct.1 (List.mem_map.mpr ⟨later, listed, same.symm⟩)

private theorem graphLines_eq_filterMap {text : List Char} {nodes : List Node}
    (distinct : (nodes.map Node.id).Nodup) :
    graphLines text nodes = nodes.filterMap (entryOf? text) := by
  rw [graphLines, linesOf, foldl_enterNode distinct (by simp), List.nil_append, List.filterMap_map]
  exact List.filterMap_some

theorem entryOf?_eq_some_iff {text : List Char} {node : Node} {entry : String × Int} :
    entryOf? text node = some entry ↔
      ∃ number : Nat, Located (splitLines text) node number ∧ (node.id, (number : Int)) = entry := by
  simp only [entryOf?, Option.map_eq_some_iff, lineOf?_eq_some_iff]

private theorem ids_of_entries (text : List Char) (nodes : List Node) :
    ((nodes.filterMap (entryOf? text)).map Prod.fst).Sublist (nodes.map Node.id) := by
  induction nodes with
  | nil => exact .slnil
  | cons node rest inductionHypothesis =>
      cases isEntry : entryOf? text node with
      | none => simpa [isEntry] using inductionHypothesis.cons node.id
      | some entry => simpa [isEntry, fst_of_entryOf? isEntry] using inductionHypothesis

/-! ## Carriage returns -/

/-- Every line feed with a carriage return before it. -/
def withReturns (text : List Char) : List Char :=
  text.flatMap fun c => if c = '\n' then ['\r', '\n'] else [c]

theorem withReturns_of_whole {line : List Char} (whole : '\n' ∉ line) : withReturns line = line := by
  induction line with
  | nil => rfl
  | cons c line inductionHypothesis =>
      rw [List.mem_cons, not_or] at whole
      have own := inductionHypothesis whole.2
      unfold withReturns at own ⊢
      rw [List.flatMap_cons, own, if_neg (Ne.symm whole.1)]
      rfl

theorem withReturns_append (line text : List Char) :
    withReturns (line ++ text) = withReturns line ++ withReturns text := by
  unfold withReturns
  rw [List.flatMap_append]

/-- A pair ends with a quotation mark, so a carriage return at the end does not matter. -/
theorem pairAt_append_return_iff {key value text : List Char} :
    PairAt key value (text ++ ['\r']) ↔ PairAt key value text := by
  constructor
  · rintro ⟨blanks, rest, blank, filled, unquoted, isText⟩
    rcases rest.eq_nil_or_concat' with rfl | ⟨rest, last, rfl⟩
    · have isText : text ++ ['\r'] =
          (('"' :: key ++ ['"', ':']) ++ (blanks ++ '"' :: value)) ++ ['"'] := by
        simpa using isText
      exact absurd (List.append_inj' isText rfl).2 (by decide)
    · refine ⟨blanks, rest, blank, filled, unquoted, ?_⟩
      have isText : text ++ ['\r'] =
          (('"' :: key ++ ['"', ':']) ++ (blanks ++ '"' :: (value ++ '"' :: rest))) ++ [last] := by
        simpa using isText
      exact (List.append_inj' isText rfl).1
  · rintro ⟨blanks, rest, blank, filled, unquoted, rfl⟩
    exact ⟨blanks, rest ++ ['\r'], blank, filled, unquoted, by simp⟩

private theorem firstPair_append_return_iff {key value line : List Char} :
    FirstPair key value (line ++ ['\r']) ↔ FirstPair key value line := by
  induction line with
  | nil =>
      have noPair : ¬ PairAt key value ([] ++ ['\r']) := by
        rw [pairAt_append_return_iff]
        rintro ⟨_, _, _, _, _, isEmpty⟩
        simp at isEmpty
      rw [List.nil_append] at noPair ⊢
      simp [firstPair_cons_iff, not_firstPair_nil, noPair]
  | cons c line inductionHypothesis =>
      have here (other : List Char) :
          PairAt key other (c :: (line ++ ['\r'])) ↔ PairAt key other (c :: line) :=
        @pairAt_append_return_iff key other (c :: line)
      rw [List.cons_append, firstPair_cons_iff, firstPair_cons_iff, inductionHypothesis]
      simp only [here]

private theorem firstPair?_append_return (key line : List Char) :
    firstPair? key (line ++ ['\r']) = firstPair? key line := by
  apply Option.ext
  intro value
  rw [firstPair?_eq_some_iff, firstPair?_eq_some_iff, firstPair_append_return_iff]

/-- The lines of a text with carriage returns are those of the text, or those with one more carriage
return at their end. -/
theorem FallsInto.withReturns {text : List Char} {lines : List (List Char)}
    (falls : FallsInto text lines) :
    ∃ others, FallsInto (Document.withReturns text) others ∧
      List.Forall₂ (fun line other => other = line ∨ other = line ++ ['\r']) lines others := by
  induction falls with
  | @last line whole =>
      refine ⟨[line], ?_, .cons (.inl rfl) .nil⟩
      rw [withReturns_of_whole whole]
      exact .last whole
  | @fed line text lines whole bare rest inductionHypothesis =>
      obtain ⟨others, falls, agree⟩ := inductionHypothesis
      refine ⟨line :: others, ?_, .cons (.inl rfl) agree⟩
      rw [withReturns_append, withReturns_of_whole whole]
      exact .returned whole falls
  | @returned line text lines whole rest inductionHypothesis =>
      obtain ⟨others, falls, agree⟩ := inductionHypothesis
      refine ⟨(line ++ ['\r']) :: others, ?_, .cons (.inr rfl) agree⟩
      rw [withReturns_append, withReturns_of_whole whole]
      have whole : '\n' ∉ line ++ ['\r'] := by simpa using whole
      have falls := FallsInto.returned whole falls
      rwa [List.append_assoc] at falls

theorem map_firstPair?_eq {lines others : List (List Char)} (key : List Char)
    (agree : List.Forall₂ (fun line other => other = line ∨ other = line ++ ['\r']) lines others) :
    others.map (firstPair? key) = lines.map (firstPair? key) := by
  induction agree with
  | nil => rfl
  | cons agrees _ inductionHypothesis =>
      rw [List.map_cons, List.map_cons, inductionHypothesis]
      rcases agrees with rfl | rfl
      · rfl
      · rw [firstPair?_append_return]

private theorem lineValues_withReturns (text : List Char) :
    lineValues (withReturns text) = lineValues text := by
  obtain ⟨others, falls, agree⟩ := (fallsInto_splitLines text).withReturns
  unfold lineValues
  dsimp only
  rw [falls.splitLines_eq, map_firstPair?_eq _ agree, map_firstPair?_eq _ agree]

/-- With distinct ids, the lines of nodes are entered in the order of the nodes, each node under the
last line with its name or else the last line with its id, and not at all without such a line.  Every
entry is the number of a line, and carriage returns before the line feeds change nothing. -/
theorem node_lines_recovered (text : List Char) {nodes : List Node}
    (distinct : (nodes.map Node.id).Nodup) :
    ∃ lines, (∀ others, FallsInto text others ↔ others = lines) ∧
      (∀ node ∈ nodes, ∀ line, (node.id, line) ∈ graphLines text nodes ↔
        ∃ number : Nat, line = number ∧ Located lines node number) ∧
      ((graphLines text nodes).map Prod.fst).Sublist (nodes.map Node.id) ∧
      (∀ entry ∈ graphLines text nodes, 1 ≤ entry.2 ∧ entry.2 ≤ lines.length) ∧
      graphLines (withReturns text) nodes = graphLines text nodes := by
  have entries (text : List Char) : graphLines text nodes = nodes.filterMap (entryOf? text) :=
    graphLines_eq_filterMap distinct
  refine ⟨splitLines text, fun others => fallsInto_iff, ?_, ?_, ?_, ?_⟩
  · intro node listed line
    rw [entries, List.mem_filterMap]
    constructor
    · rintro ⟨other, otherListed, isEntry⟩
      obtain rfl : other = node :=
        List.inj_on_of_nodup_map distinct otherListed listed (fst_of_entryOf? isEntry).symm
      obtain ⟨number, located, isLine⟩ := entryOf?_eq_some_iff.mp isEntry
      exact ⟨number, (congrArg Prod.snd isLine).symm, located⟩
    · rintro ⟨number, rfl, located⟩
      exact ⟨node, listed, entryOf?_eq_some_iff.mpr ⟨number, located, rfl⟩⟩
  · rw [entries]
    exact ids_of_entries text nodes
  · intro entry member
    rw [entries, List.mem_filterMap] at member
    obtain ⟨node, _, isEntry⟩ := member
    obtain ⟨number, located, rfl⟩ := entryOf?_eq_some_iff.mp isEntry
    have bounds := located.bounds
    dsimp only
    omega
  · rw [entries, entries]
    unfold entryOf?
    rw [lineValues_withReturns]

/-- Lines with several pairs, a carriage return before one line feed, and one inside a line. -/
def pairedText : List Char :=
  ("\"id\": \"a\", \"name\": \"Ask\"\n\"id\":\t\"b\", \"name\": \"Ask\", \"name\": \"Beep\"\r\n" ++
    "\r\"name\":\"Ask\"\n\"id\": \"c").toList

def pairedNodes : List Node :=
  [{ id := "a", type := "set", name := some "Ask" }, { id := "b", type := "set", name := some "Beep" },
    { id := "c", type := "set", name := some "" }]

/-- A node has the last line with its name, or else that with its id, unless the id is not closed. -/
theorem node_lines_recovered_paired :
    (pairedNodes.map Node.id).Nodup ∧ graphLines pairedText pairedNodes = [("a", 3), ("b", 2)] ∧
    graphLines (withReturns pairedText) pairedNodes = [("a", 3), ("b", 2)] ∧
    ∃ lines, FallsInto pairedText lines ∧
      ∀ node ∈ pairedNodes, ∀ number : Nat, Located lines node number ↔
        (node.id, (number : Int)) ∈ [("a", 3), ("b", 2)] := by
  have distinct : (pairedNodes.map Node.id).Nodup := by decide
  have evaluated : graphLines pairedText pairedNodes = [("a", 3), ("b", 2)] := by decide +kernel
  obtain ⟨lines, falls, located, _, _, same⟩ := node_lines_recovered pairedText distinct
  rw [evaluated] at located same
  refine ⟨distinct, evaluated, same, lines, (falls lines).mpr rfl, ?_⟩
  intro node listed number
  rw [located node listed]
  constructor
  · intro isLine
    exact ⟨number, rfl, isLine⟩
  · rintro ⟨other, same, isLine⟩
    rwa [Int.ofNat.inj same]

end WorkflowLint.Document
