import WorkflowLint.Graph.Basic
import WorkflowLint.Proofs.LiteralPatterns

/-!
Contract: the search for candidate names in the parameters of a node.

The search takes values from the front of a queue, tries their own texts and keys, and puts what is right
inside them at the end.  `QueueSearch` is its course turn by turn; it ends before there are more turns
than values.  When all keys can be written, the answer depends on which texts are shown and not on where,
so values that are `Rearranged` have one answer, and so have candidates in another order.
-/

set_option autoImplicit false

namespace WorkflowLint

/-! ## Candidates that are sought -/

namespace Text

/-- Words with one letter each behind a common front, not all of them the same, end in these letters. -/
theorem endings_of_front {front first : List Char} {others : List (List Char)}
    (each : ∀ word ∈ first :: others, ∃ c, word = front ++ [c])
    (differ : ∃ other ∈ others, other ≠ first) :
    ∀ ending ∈ endings first others, ending.length = 1 := by
  induction front generalizing first others with
  | nil =>
      obtain ⟨c, rfl⟩ := each first List.mem_cons_self
      rw [List.nil_append, endings, if_neg]
      · intro ending listed
        obtain ⟨d, rfl⟩ := each ending listed
        rfl
      · intro shared
        obtain ⟨other, listed, differs⟩ := differ
        obtain ⟨d, rfl⟩ := each other (List.mem_cons_of_mem _ listed)
        have same := List.all_eq_true.mp shared _ listed
        simp only [List.nil_append, List.head?_cons, beq_iff_eq, Option.some.injEq] at same
        exact differs (by rw [same])
  | cons letter front inductionHypothesis =>
      obtain ⟨c, rfl⟩ := each first List.mem_cons_self
      rw [List.cons_append, endings, if_pos]
      · refine inductionHypothesis ?_ ?_
        · intro word listed
          rcases List.mem_cons.mp listed with rfl | inOthers
          · exact ⟨c, rfl⟩
          · obtain ⟨other, isOther, rfl⟩ := List.mem_map.mp inOthers
            obtain ⟨d, rfl⟩ := each other (List.mem_cons_of_mem _ isOther)
            exact ⟨d, rfl⟩
        · obtain ⟨other, listed, differs⟩ := differ
          refine ⟨other.tail, List.mem_map.mpr ⟨other, listed, rfl⟩, ?_⟩
          obtain ⟨d, rfl⟩ := each other (List.mem_cons_of_mem _ listed)
          exact fun same => differs (congrArg (letter :: ·) same)
      · rw [List.all_eq_true]
        intro other listed
        obtain ⟨d, rfl⟩ := each other (List.mem_cons_of_mem _ listed)
        exact beq_self_eq_true _

/-- Words differ in their last letter only when all of them have one letter behind a common front, and
not all of them are the same. -/
theorem areLetters_iff {words : List (List Char)} :
    areLetters words = true ↔
      (∃ front : List Char, ∀ word ∈ words, ∃ c, word = front ++ [c]) ∧
        ∃ one ∈ words, ∃ other ∈ words, one ≠ other := by
  match words with
  | [] => simp [areLetters]
  | [word] => simp [areLetters]
  | first :: next :: others =>
      rw [areLetters, List.all_eq_true]
      simp only [beq_iff_eq]
      constructor
      · intro single
        obtain ⟨front, isFront, _⟩ := Regex.choice_literals {} first (next :: others)
        rw [isFront]
        refine ⟨⟨front, ?_⟩, ?_⟩
        · intro word listed
          obtain ⟨ending, isEnding, rfl⟩ := List.mem_map.mp listed
          obtain ⟨c, rfl⟩ := List.length_eq_one_iff.mp (single ending isEnding)
          exact ⟨c, rfl⟩
        · obtain ⟨one, isOne, other, isOther, differ⟩ :=
            Regex.exists_ne_of_endings (List.cons_ne_nil _ _) single
          exact ⟨front ++ one, List.mem_map.mpr ⟨one, isOne, rfl⟩, front ++ other,
            List.mem_map.mpr ⟨other, isOther, rfl⟩, fun same => differ (List.append_cancel_left same)⟩
      · rintro ⟨⟨front, each⟩, one, isOne, other, isOther, differ⟩
        refine endings_of_front each ?_
        by_contra same
        simp only [not_exists, not_and, not_not] at same
        have isFirst : ∀ word ∈ first :: next :: others, word = first :=
          List.forall_mem_cons.mpr ⟨rfl, same⟩
        exact differ ((isFirst one isOne).trans (isFirst other isOther).symm)

private theorem areLetters_of_perm {words others : List (List Char)} (order : words.Perm others) :
    areLetters words = areLetters others := by
  rw [Bool.eq_iff_iff, areLetters_iff, areLetters_iff]
  simp only [order.mem_iff]

/-- The order of keywords does not decide which of them are sought. -/
theorem mem_sought_of_perm {keywords others : List String} (order : keywords.Perm others)
    {keyword : String} : keyword ∈ sought keywords ↔ keyword ∈ sought others := by
  simp only [sought_eq, List.mem_filter, isFoundAmong,
    areLetters_of_perm (order.map String.toList), order.mem_iff]

/-- All keywords are sought when none has a letter past sixteen bits. -/
theorem sought_of_near {keywords : List String}
    (near : ∀ keyword ∈ keywords, ∀ c ∈ keyword.toList, c.toNat ≤ 0xFFFF) :
    sought keywords = keywords := by
  rw [sought_eq, List.filter_eq_self]
  intro keyword listed
  have small : keyword.toList.getLast?.any isFarCapital = false := by
    rw [Option.any_eq_false]
    intro c isLast
    have notFar := near keyword listed c (List.mem_of_getLast? isLast)
    simp [isFarCapital, Nat.not_lt.mpr notFar]
  rw [isFoundAmong, small, Bool.and_false, Bool.not_false]

end Text

namespace Value

open Sequence (Ends)

/-! ## Another order -/

/-- The other value has the entries of mappings and the items of lists and tuples in another order, at
any depth. -/
inductive Rearranged : Value → Value → Prop where
  | refl (value : Value) : Rearranged value value
  | trans {first second third : Value} (left : Rearranged first second)
      (right : Rearranged second third) : Rearranged first third
  | items {items others : List Value} (order : items.Perm others) :
      Rearranged (.list items) (.list others)
  | parts {items others : List Value} (order : items.Perm others) :
      Rearranged (.tuple items) (.tuple others)
  | entries {entries others : List (Value × Value)} (order : entries.Perm others) :
      Rearranged (.map entries) (.map others)
  | inItem {before after : List Value} {item other : Value} (inner : Rearranged item other) :
      Rearranged (.list (before ++ item :: after)) (.list (before ++ other :: after))
  | inPart {before after : List Value} {item other : Value} (inner : Rearranged item other) :
      Rearranged (.tuple (before ++ item :: after)) (.tuple (before ++ other :: after))
  | inEntry {before after : List (Value × Value)} {key value other : Value}
      (inner : Rearranged value other) :
      Rearranged (.map (before ++ (key, value) :: after)) (.map (before ++ (key, other) :: after))

namespace Rearranged

theorem kind {value other : Value} (rearranged : Rearranged value other) :
    value.isNull = other.isNull ∧ value.isMap = other.isMap := by
  induction rearranged with
  | trans _ _ first second => exact ⟨first.1.trans second.1, first.2.trans second.2⟩
  | _ => exact ⟨rfl, rfl⟩

section Offered

variable {part : Value}

theorem offers_iff_of_parts {value other : Value}
    (own : part ∈ value.ownParts ↔ part ∈ other.ownParts)
    (inner : (∃ child ∈ value.children, Offers child part) ↔
      ∃ child ∈ other.children, Offers child part) :
    Offers value part ↔ Offers other part := by
  rw [offers_step, own, inner, ← offers_step]

theorem exists_offers_iff_of_perm {items others : List Value} (order : items.Perm others) :
    (∃ child ∈ items, Offers child part) ↔ ∃ child ∈ others, Offers child part := by
  simp only [order.mem_iff]

theorem exists_offers_iff_of_replaced {before after : List Value} {item other : Value}
    (same : Offers item part ↔ Offers other part) :
    (∃ child ∈ before ++ item :: after, Offers child part) ↔
      ∃ child ∈ before ++ other :: after, Offers child part := by
  simp only [List.mem_append, List.mem_cons, or_and_right, exists_or, exists_eq_left, same]

/-- Another order offers the same texts and keys. -/
theorem offers_iff {value other : Value} (rearranged : Rearranged value other) :
    Offers value part ↔ Offers other part := by
  induction rearranged with
  | refl value => exact Iff.rfl
  | trans _ _ first second => exact first.trans second
  | items order => exact offers_iff_of_parts Iff.rfl (exists_offers_iff_of_perm order)
  | parts order => exact offers_iff_of_parts Iff.rfl (exists_offers_iff_of_perm order)
  | entries order =>
      exact offers_iff_of_parts (order.map _).mem_iff (exists_offers_iff_of_perm (order.map _))
  | inItem _ same => exact offers_iff_of_parts Iff.rfl (exists_offers_iff_of_replaced same)
  | inPart _ same => exact offers_iff_of_parts Iff.rfl (exists_offers_iff_of_replaced same)
  | inEntry _ same =>
      refine offers_iff_of_parts ?_ ?_
      · simp only [ownParts, List.map_append, List.map_cons]
      · simp only [children, List.map_append, List.map_cons]
        exact exists_offers_iff_of_replaced same

end Offered

theorem keysSpellable {value other : Value} (rearranged : Rearranged value other)
    (spellable : value.KeysSpellable) : other.KeysSpellable :=
  fun part isOffered => spellable part (rearranged.offers_iff.mpr isOffered)

theorem shows_iff {value other : Value} (rearranged : Rearranged value other) {text : List Char} :
    Shows value text ↔ Shows other text := by
  simp only [Value.shows_iff, rearranged.offers_iff]

end Rearranged

/-! ## The course of the search -/

/-- Texts and keys are tried in order, up to one that is accepted or that cannot be written. -/
inductive Tries (accepts : List Char → Bool) : List Value → Except SpellingFault Bool → Prop where
  | nothing : Tries accepts [] (.ok false)
  | met {part : Value} {rest : List Value} (spellable : part.isSpellable = true)
      (accepted : accepts part.display = true) : Tries accepts (part :: rest) (.ok true)
  | stopped {part : Value} {rest : List Value} (unspellable : part.isSpellable = false) :
      Tries accepts (part :: rest) (.error .integerTooLong)
  | next {part : Value} {rest : List Value} {outcome : Except SpellingFault Bool}
      (spellable : part.isSpellable = true) (refused : accepts part.display = false)
      (later : Tries accepts rest outcome) : Tries accepts (part :: rest) outcome

/-- The search through a queue comes to an outcome in a number of turns.  A turn tries what the first
value of the queue itself has to show, and puts what is right inside it at the end of the queue. -/
inductive QueueSearch (accepts : List Char → Bool) :
    Nat → List Value → Except SpellingFault Bool → Prop where
  | exhausted : QueueSearch accepts 0 [] (.ok false)
  | settled {value : Value} {queue : List Value} {outcome : Except SpellingFault Bool}
      (tried : Tries accepts value.ownParts outcome) (ends : outcome ≠ .ok false) :
      QueueSearch accepts 1 (value :: queue) outcome
  | turn {turns : Nat} {value : Value} {queue : List Value} {outcome : Except SpellingFault Bool}
      (tried : Tries accepts value.ownParts (.ok false))
      (later : QueueSearch accepts turns (queue ++ value.children) outcome) :
      QueueSearch accepts (turns + 1) (value :: queue) outcome

private theorem tries_anyM (accepts : List Char → Bool) (parts : List Value) :
    Tries accepts parts (parts.anyM fun part => accepts <$> part.spelled) := by
  induction parts with
  | nil => exact .nothing
  | cons part rest inductionHypothesis =>
      rw [List.anyM_cons]
      unfold spelled
      cases canWrite : part.isSpellable with
      | false => exact .stopped canWrite
      | true =>
          show Tries accepts _ (if accepts part.display then .ok true else _)
          split
          · next accepted => exact .met canWrite accepted
          · next refused => exact .next canWrite (Bool.eq_false_iff.mpr refused) inductionHypothesis

/-- The search ends, with no more turns than there are values in the queue and inside them. -/
theorem exists_queueSearch (accepts : List Char → Bool) (queue : List Value) :
    ∃ turns ≤ weightItems queue, QueueSearch accepts turns queue (meetsText accepts queue) := by
  fun_induction meetsText accepts queue with
  | case1 => exact ⟨0, Nat.le_refl 0, .exhausted⟩
  | case2 value queue inductionHypothesis =>
      obtain ⟨turns, bounded, later⟩ := inductionHypothesis
      rw [weightItems_append] at bounded
      rw [weightItems, weight_eq_children]
      have tried := tries_anyM accepts value.ownParts
      rw [← showsText_eq] at tried
      cases own : value.showsText accepts with
      | error fault =>
          rw [own] at tried
          exact ⟨1, by omega, .settled tried (by rintro ⟨⟩)⟩
      | ok answer =>
          rw [own] at tried
          cases answer with
          | true => exact ⟨1, by omega, .settled tried (by rintro ⟨⟩)⟩
          | false => exact ⟨turns + 1, by omega, .turn tried later⟩

/-! ## Mentioned candidates -/

theorem meetsText_of_bare {value : Value} (accepts : List Char → Bool) (noParts : value.ownParts = [])
    (noChildren : value.children = []) : meetsText accepts [value] = .ok false := by
  rw [meetsText, showsText_eq, noParts, noChildren]
  show meetsText accepts [] = .ok false
  rw [meetsText]

section Params

variable {value : Value} (isParams : value.isNull = true ∨ value.isMap = true)
include isParams

/-- Of parameters, what is passed over without a search has nothing to find. -/
theorem mentions_eq_meetsText {candidates : List String} (given : candidates ≠ [])
    {pattern : Regex.Pattern}
    (compiled : Regex.compile (Regex.anyOf candidates) true = .ok pattern) :
    value.mentions candidates =
      (meetsText (fun text => (pattern.search? text).isSome) [value]).mapError .key := by
  unfold mentions
  split
  · next skipped =>
      rw [List.isEmpty_eq_false_iff.mpr given, Bool.or_false] at skipped
      cases value with
      | null => rw [meetsText_of_bare _ rfl rfl, Except.mapError]
      | map entries =>
          cases List.isEmpty_iff.mp skipped
          rw [meetsText_of_bare _ rfl rfl, Except.mapError]
      | _ => rcases isParams with isNull | isMap <;> contradiction
  · rw [compiled]

/-- The search in parameters answers whether one of the texts that they show holds one of the
candidates that are sought.  It stops only at a key that cannot be written. -/
theorem mentions_ends (candidates : List String) :
    Ends (fun fault => fault = .key .integerTooLong ∧ ¬ value.KeysSpellable)
      (fun answer => answer = true ↔
        ∃ candidate ∈ Text.sought candidates, ∃ text, value.Shows text ∧
          Text.Occurs candidate.toList text)
      (value.mentions candidates) := by
  by_cases given : candidates = []
  · subst given
    rw [mentions, List.isEmpty_nil, Bool.or_true, if_pos rfl]
    exact iff_of_false Bool.false_ne_true (by simp [Text.sought])
  · obtain ⟨pattern, compiled, accepts⟩ := Regex.exists_pattern_anyOf given
    rw [mentions_eq_meetsText isParams given compiled]
    have ends := @meetsText_ends (fun text => (pattern.search? text).isSome) [value]
    simp only [List.mem_singleton, exists_eq_left] at ends
    cases isOutcome : meetsText (fun text => (pattern.search? text).isSome) [value] with
    | error fault =>
        rw [isOutcome] at ends
        obtain ⟨part, isOffered, unspellable⟩ := ends
        refine ⟨by cases fault; rfl, fun spellable => ?_⟩
        rw [spellable part isOffered] at unspellable
        cases unspellable
    | ok answer =>
        rw [isOutcome] at ends
        show answer = true ↔ _
        rw [show answer = true ↔ _ from ends]
        simp only [accepts, Text.anyOccursIn_iff, shows_iff]
        constructor
        · rintro ⟨part, isOffered, candidate, isSought, occurs⟩
          exact ⟨candidate, isSought, part.display, ⟨part, isOffered, rfl⟩, occurs⟩
        · rintro ⟨candidate, isSought, _, ⟨part, isOffered, rfl⟩, occurs⟩
          exact ⟨part, isOffered, candidate, isSought, occurs⟩

theorem exists_mentions (spellable : value.KeysSpellable) (candidates : List String) :
    ∃ answer, value.mentions candidates = .ok answer ∧
      (answer = true ↔ ∃ candidate ∈ Text.sought candidates, ∃ text, value.Shows text ∧
        Text.Occurs candidate.toList text) := by
  have ends := mentions_ends isParams candidates
  cases outcome : value.mentions candidates with
  | error fault =>
      rw [outcome] at ends
      exact absurd spellable ends.2
  | ok answer =>
      rw [outcome] at ends
      exact ⟨answer, rfl, ends⟩

end Params

/-- The search in parameters, which are null or a mapping, finds exactly the candidates that are sought
and stand in a key or in a text at any depth, letter by letter and without regard to case, when every key
can be written; of candidates within sixteen bits all are sought.  The pattern that is made of the
candidates accepts the texts that hold one of those, whatever characters the candidates have.  The search
with it ends, after at most one turn for each value, at the first key that cannot be written or at the
first that is accepted.  The order of the candidates, of entries and of items is of no account when every
key can be written. -/
theorem mentions_shown_candidates {value : Value}
    (isParams : value.isNull = true ∨ value.isMap = true) (candidates : List String) :
    (value.KeysSpellable → ∃ answer, value.mentions candidates = .ok answer ∧
        (answer = true ↔ ∃ candidate ∈ Text.sought candidates, ∃ text, value.Shows text ∧
          Text.Occurs candidate.toList text)) ∧
      ((∀ candidate ∈ candidates, ∀ c ∈ candidate.toList, c.toNat ≤ 0xFFFF) →
        Text.sought candidates = candidates) ∧
      (candidates ≠ [] →
        ∃ pattern, Regex.compile (Regex.anyOf candidates) true = .ok pattern ∧
          (∀ text, (pattern.search? text).isSome = true ↔
            ∃ candidate ∈ Text.sought candidates, Text.Occurs candidate.toList text) ∧
          ∃ turns ≤ value.weight, ∃ outcome,
            QueueSearch (fun text => (pattern.search? text).isSome) turns [value] outcome ∧
              value.mentions candidates = outcome.mapError .key) ∧
      (value.KeysSpellable → ∀ other others, Rearranged value other → candidates.Perm others →
        other.mentions others = value.mentions candidates) := by
  refine ⟨fun spellable => exists_mentions isParams spellable candidates, Text.sought_of_near, ?_, ?_⟩
  · intro given
    obtain ⟨pattern, compiled, accepts⟩ := Regex.exists_pattern_anyOf given
    refine ⟨pattern, compiled, fun text => ?_, ?_⟩
    · rw [accepts, Text.anyOccursIn_iff]
    · obtain ⟨turns, bounded, searched⟩ :=
        exists_queueSearch (fun text => (pattern.search? text).isSome) [value]
      exact ⟨turns, bounded, _, searched, mentions_eq_meetsText isParams given compiled⟩
  · intro spellable other others rearranged order
    have isOther : other.isNull = true ∨ other.isMap = true := by
      rwa [← rearranged.kind.1, ← rearranged.kind.2]
    obtain ⟨answer, isAnswer, answer_iff⟩ := exists_mentions isParams spellable candidates
    obtain ⟨again, isAgain, again_iff⟩ :=
      exists_mentions isOther (rearranged.keysSpellable spellable) others
    have same : again = answer := by
      rw [Bool.eq_iff_iff, answer_iff, again_iff]
      simp only [Text.mem_sought_of_perm order, rearranged.shows_iff]
    rw [isAnswer, isAgain, same]

/-- Parameters under a number as a key, with a list, a tuple and a mapping inside each other. -/
def nestedParams : Value :=
  .map [(.int 7, .list [.null, .tuple [.str "x", .record [("X-EVENTID", .int 1)]]]),
    (.str "text", .str "a-b")]

/-- The same parameters in another order at each level. -/
def turnedParams : Value :=
  .map [(.str "text", .str "a-b"),
    (.int 7, .list [.tuple [.record [("X-EVENTID", .int 1)], .str "x"], .null])]

private theorem rearranged_nestedParams : Rearranged nestedParams turnedParams := by
  refine .trans (.entries (.swap _ _ [])) ?_
  refine @Rearranged.inEntry [(.str "text", .str "a-b")] [] _ _ _ ?_
  refine .trans (.items (.swap _ _ [])) ?_
  exact @Rearranged.inItem [] [.null] _ _ (.parts (.swap _ _ []))

/-- A candidate is found in a key at the third level, in either order; one with a dot is not found in a
text that has another letter in its place. -/
theorem mentions_shown_candidates_nested :
    nestedParams.isMap = true ∧ nestedParams.mentions ["a.b", "eventId"] = .ok true ∧
      turnedParams.mentions ["eventId", "a.b"] = .ok true ∧
      nestedParams.mentions ["a.b"] = .ok false := by
  have spellable : nestedParams.KeysSpellable := keysSpellable_of_isSpellable (by decide +kernel)
  obtain ⟨found_iff, allSought, _, unordered⟩ :=
    @mentions_shown_candidates nestedParams (.inr rfl) ["a.b", "eventId"]
  obtain ⟨answer, isAnswer, answer_iff⟩ := found_iff spellable
  have found : answer = true := by
    rw [answer_iff, allSought (by simp)]
    refine ⟨"eventId", by simp, "X-EVENTID".toList, ?_, Text.occursIn_iff.mp (by decide +kernel)⟩
    exact .key (.field (List.mem_cons_self ..) (.item (List.mem_cons_of_mem _ List.mem_cons_self)
      (.part (List.mem_cons_of_mem _ List.mem_cons_self) .self))) List.mem_cons_self
  subst found
  refine ⟨rfl, isAnswer, ?_, Sequence.toOption_eq_some_iff.mp (by decide +kernel)⟩
  rw [unordered spellable turnedParams ["eventId", "a.b"] rearranged_nestedParams (.swap _ _ []),
    isAnswer]

/-- Two candidates of one letter each.  The first is a capital past sixteen bits and stands in a text of
the parameters, but the search for both does not find it. -/
theorem far_candidate_unmentioned :
    (Value.record [("k", .str "𐐀")]).mentions ["𐐀", "a"] = .ok false ∧
      (Value.record [("k", .str "𐐀")]).Shows "𐐀".toList ∧ Text.Occurs "𐐀".toList "𐐀".toList := by
  refine ⟨Sequence.toOption_eq_some_iff.mp (by decide +kernel), ?_, ?_⟩
  · exact .leaf (.field List.mem_cons_self .self)
  · exact Text.occursIn_iff.mp (by decide +kernel)

end Value

namespace Node

/-- The parameters of a node mention one of the names, as a key or in a text, at any depth. -/
def Mentions (names : List String) (node : Node) : Prop :=
  ∃ name ∈ Text.sought names, ∃ text, node.paramsValue.Shows text ∧ Text.Occurs name.toList text

theorem paramsValue_cases (node : Node) :
    node.paramsValue.isNull = true ∨ node.paramsValue.isMap = true := by
  unfold paramsValue
  split
  · exact .inr rfl
  · exact .inl rfl

end Node

end WorkflowLint
