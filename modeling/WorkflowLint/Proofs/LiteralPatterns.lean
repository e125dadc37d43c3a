import WorkflowLint.Proofs.CaseFolding
import WorkflowLint.Proofs.Mentions

/-!
Contract: patterns that match given texts as they are written.

`Regex.anyOf` offers texts as the alternatives of one pattern text.  The reader takes such a pattern text
apart into the spellings it was put together from.  Of several alternatives it makes the letters that all
of them start with, followed by a choice between their endings; when these are single letters, the choice
is a set of letters.  So the pattern occurs in a text exactly where one of the texts of `Text.sought` does.

The reader keeps one token ahead.  `Source.before` is its state in front of a list of tokens, and each
step of the reader leads from one such state to another.
-/

set_option autoImplicit false

namespace WorkflowLint

namespace Regex

/-! ## Spelling -/

/-- What the reader takes as one: a character, or a backslash with the character behind it. -/
inductive IsToken : List Char → Prop where
  | plain {c : Char} (notBackslash : c ≠ '\\') : IsToken [c]
  | escaped {c : Char} : IsToken ['\\', c]

private theorem isToken_spelling (c : Char) : IsToken (spelling c) := by
  unfold spelling
  split
  next => exact .escaped
  next plain =>
    refine .plain ?_
    rintro rfl
    exact plain (by decide)

/-- The tokens of a text that is to stand for itself. -/
def literalTokens (text : List Char) : List (List Char) := text.map spelling

/-- The tokens of further alternatives, each behind a bar. -/
def barredTokens (texts : List (List Char)) : List (List Char) :=
  texts.flatMap fun text => ['|'] :: literalTokens text

theorem isToken_of_mem_literalTokens {text token : List Char} (member : token ∈ literalTokens text) :
    IsToken token := by
  obtain ⟨c, _, rfl⟩ := List.mem_map.mp member
  exact isToken_spelling c

theorem isToken_of_mem_barredTokens {texts : List (List Char)} {token : List Char}
    (member : token ∈ barredTokens texts) : IsToken token := by
  obtain ⟨text, _, inText⟩ := List.mem_flatMap.mp member
  rcases List.mem_cons.mp inText with rfl | own
  · exact .plain (by decide)
  · exact isToken_of_mem_literalTokens own

theorem isToken_of_mem_append {text token : List Char} {texts : List (List Char)}
    (member : token ∈ literalTokens text ++ barredTokens texts) : IsToken token := by
  rcases List.mem_append.mp member with own | later
  · exact isToken_of_mem_literalTokens own
  · exact isToken_of_mem_barredTokens later

theorem barredTokens_cons (text : List Char) (texts : List (List Char)) :
    barredTokens (text :: texts) = ['|'] :: (literalTokens text ++ barredTokens texts) := by
  rw [barredTokens, List.flatMap_cons, List.cons_append, barredTokens]

/-- Behind an alternative the pattern text ends, or a bar stands. -/
theorem head?_barredTokens (texts : List (List Char)) :
    (barredTokens texts).head? = none ∨ (barredTokens texts).head? = some ['|'] := by
  cases texts with
  | nil => exact .inl rfl
  | cons text rest =>
      rw [barredTokens_cons]
      exact .inr rfl

/-- The pattern text of alternatives is written with their tokens. -/
theorem anyOf_cons (text : String) (texts : List String) :
    anyOf (text :: texts) =
      (literalTokens text.toList ++ barredTokens (texts.map String.toList)).flatten := by
  induction texts generalizing text with
  | nil => simp [anyOf, escape, literalTokens, barredTokens, List.flatMap]
  | cons next rest inductionHypothesis =>
      have later := inductionHypothesis next
      simp only [anyOf, List.map_cons] at later ⊢
      rw [List.intercalate_cons_cons, later, barredTokens_cons, List.append_assoc]
      simp only [List.flatten_append, List.flatten_cons]
      rfl

/-- There are no more tokens than characters. -/
theorem length_le_flatten {tokens : List (List Char)} (areTokens : ∀ token ∈ tokens, IsToken token) :
    tokens.length ≤ tokens.flatten.length := by
  induction tokens with
  | nil => exact Nat.le_refl 0
  | cons token rest inductionHypothesis =>
      have own : 0 < token.length := by
        cases areTokens token List.mem_cons_self <;> simp
      have others := inductionHypothesis fun other member =>
        areTokens other (List.mem_cons_of_mem token member)
      simp only [List.length_cons, List.flatten_cons, List.length_append]
      omega

/-! ## Steps of the reader -/

/-- The reader's state in front of a whole pattern text. -/
def Source.ofText (text : List Char) (flags : Flags) : Source :=
  ⟨text, none, text, 0, #[none], [], none, [], flags, none⟩

/-- The reader's state in front of tokens, of which the first is read ahead. -/
def Source.before (source : Source) (tokens : List (List Char)) (index : Nat) : Source :=
  { source with next := tokens.head?, rest := tokens.tail.flatten, index := index }

namespace Step

section Binding

variable {α β : Type} {source later : Source}

theorem run_bind {step : Step α} {next : α → Step β} {result : α}
    (ran : step.run source = .ok (result, later)) :
    (step >>= next).run source = (next result).run later := by
  rw [StateT.run_bind, ran]
  rfl

theorem run_get (next : Source → Step β) : (get >>= next).run source = (next source).run source :=
  rfl

private theorem run_set (next : PUnit → Step β) :
    (set later >>= next).run source = (next ⟨⟩).run later :=
  rfl

end Binding

section Reading

variable {source : Source} {token : List Char} {tokens : List (List Char)} {flags : Flags}

theorem run_peek (index : Nat) :
    peek.run (source.before tokens index) = .ok (tokens.head?, source.before tokens index) :=
  rfl

/-- Reading ahead leads to the state in front of the tokens that the rest is made of. -/
theorem run_advance (areTokens : ∀ token ∈ tokens, IsToken token)
    (isRest : source.rest = tokens.flatten) :
    ∃ index, advance.run source = .ok ((), source.before tokens index) := by
  rw [advance, run_get]
  cases tokens with
  | nil =>
      refine ⟨source.index, ?_⟩
      simp only [isRest, List.flatten_nil]
      rfl
  | cons token others =>
      cases areTokens token List.mem_cons_self with
      | plain notBackslash =>
          refine ⟨source.index + 1, ?_⟩
          simp only [isRest, List.flatten_cons, List.singleton_append, notBackslash,
            IsEmpty.forall_iff, implies_true]
          rfl
      | escaped =>
          refine ⟨source.index + 2, ?_⟩
          simp only [isRest, List.flatten_cons]
          rfl

theorem run_advance_before (areTokens : ∀ token ∈ tokens, IsToken token) (index : Nat) :
    ∃ after, advance.run (source.before (token :: tokens) index) =
      .ok ((), source.before tokens after) :=
  run_advance areTokens rfl

private theorem run_accept (areTokens : ∀ token ∈ tokens, IsToken token) (c : Char) (index : Nat) :
    ∃ after, (accept c).run (source.before ([c] :: tokens) index) =
      .ok (true, source.before tokens after) := by
  obtain ⟨after, advanced⟩ := @run_advance_before source [c] tokens areTokens index
  refine ⟨after, ?_⟩
  rw [accept, run_bind (run_peek index), List.head?_cons, if_pos (beq_self_eq_true _)]
  exact run_bind advanced

/-- The piece that matches a character. -/
def literal (flags : Flags) (c : Char) : Piece :=
  .char ⟨[.code c.toNat], false, flags.mode, flags.ascii⟩

/-- Behind a backslash a special character stands for itself. -/
theorem run_pieceEscape {c : Char} (special : c ∈ specials) :
    (pieceEscape flags c).run source = .ok (literal flags c, source) := by
  simp only [specials, List.mem_cons, List.not_mem_nil, or_false] at special
  rcases special with rfl | rfl | rfl | rfl | rfl | rfl | rfl | rfl | rfl | rfl | rfl | rfl | rfl |
    rfl | rfl | rfl | rfl | rfl | rfl | rfl | rfl | rfl | rfl | rfl <;> rfl

/-- The spelling of a character is read as the piece that matches it. -/
theorem run_sequence_spelling (areTokens : ∀ token ∈ tokens, IsToken token)
    (terse : flags.verbose = false) (c : Char) (index fuel : Nat) (first : Bool)
    (pieces : List Piece) :
    ∃ after, (sequence (fuel + 1) flags first pieces).run
        (source.before (spelling c :: tokens) index) =
      (sequence fuel flags first (literal flags c :: pieces)).run (source.before tokens after) := by
  obtain ⟨after, advanced⟩ := @run_advance_before source (spelling c) tokens areTokens index
  refine ⟨after, ?_⟩
  rw [sequence, run_bind (run_peek index)]
  unfold spelling at advanced ⊢
  split at advanced
  next special =>
    rw [if_pos special]
    show StateT.run (advance >>= _) _ = _
    rw [run_bind advanced]
    exact run_bind (run_pieceEscape special)
  next plain =>
    -- None of the characters with a meaning is left, so the last case of the reader applies.
    rw [if_neg plain]
    simp only [specials, List.mem_cons, List.not_mem_nil, or_false, not_or] at plain
    simp only [List.head?_cons, List.cons.injEq, plain, and_true, imp_self, run_bind advanced, terse,
      Bool.false_and, Bool.false_eq_true, ↓reduceIte, beq_iff_eq, Bool.or_eq_true, or_self]
    rfl

/-- The spelling of a text is read, up to a bar or the end, as one piece for each character. -/
theorem run_sequence (areTokens : ∀ token ∈ tokens, IsToken token)
    (stops : tokens.head? = none ∨ tokens.head? = some ['|']) (terse : flags.verbose = false)
    {text : List Char} {fuel : Nat} (enough : text.length < fuel) (index : Nat) (first : Bool)
    (pieces : List Piece) :
    ∃ after, (sequence fuel flags first pieces).run
        (source.before (literalTokens text ++ tokens) index) =
      .ok (pieces.reverse.flatMap Piece.parts ++ text.map (literal flags),
        source.before tokens after) := by
  induction text generalizing fuel index pieces with
  | nil =>
      obtain _ | fuel := fuel
      · cases enough
      refine ⟨index, ?_⟩
      rw [sequence, run_bind (run_peek index), literalTokens, List.map_nil, List.nil_append,
        List.map_nil, List.append_nil]
      rcases stops with ended | barred
      · rw [ended]
        rfl
      · rw [barred]
        rfl
  | cons c text inductionHypothesis =>
      have areLater : ∀ token ∈ literalTokens text ++ tokens, IsToken token :=
        List.forall_mem_append.mpr ⟨fun _ => isToken_of_mem_literalTokens, areTokens⟩
      obtain _ | fuel := fuel
      · cases enough
      obtain ⟨between, stepped⟩ :=
        @run_sequence_spelling source _ flags areLater terse c index fuel first pieces
      obtain ⟨after, ran⟩ :=
        inductionHypothesis (Nat.lt_of_succ_lt_succ enough) between (literal flags c :: pieces)
      refine ⟨after, ?_⟩
      refine (stepped.trans ran).trans ?_
      rw [List.reverse_cons, List.flatMap_append, List.append_assoc, List.map_cons]
      rfl

end Reading

section Choices

variable {source : Source} (terse : source.flags.verbose = false)
include terse

/-- Further alternatives are read one after the other, up to the end. -/
theorem run_moreAlternatives {texts : List (List Char)} {fuel : Nat}
    (enough : (barredTokens texts).length < fuel) (index : Nat) :
    ∃ after, (moreAlternatives fuel source.flags true).run
        (source.before (barredTokens texts) index) =
      .ok (texts.map (List.map (literal source.flags)), source.before [] after) := by
  induction texts generalizing fuel index with
  | nil =>
      obtain _ | fuel := fuel
      · cases enough
      refine ⟨index, ?_⟩
      rw [moreAlternatives]
      rfl
  | cons text rest inductionHypothesis =>
      rw [barredTokens_cons] at enough ⊢
      simp only [List.length_cons, List.length_append, literalTokens, List.length_map] at enough
      obtain ⟨opened, accepted⟩ :=
        @run_accept source _ (fun _ => @isToken_of_mem_append text _ rest) '|' index
      obtain _ | fuel := fuel
      · cases enough
      obtain ⟨between, own⟩ := @run_sequence source _ source.flags
        (fun _ => isToken_of_mem_barredTokens) (head?_barredTokens rest) terse text fuel (by omega)
        opened false []
      obtain ⟨after, others⟩ := @inductionHypothesis fuel (by omega) between
      refine ⟨after, ?_⟩
      rw [moreAlternatives, run_bind accepted]
      show StateT.run (get >>= _) _ = _
      rw [run_get]
      exact (run_bind own).trans (run_bind others)

/-- The pieces of alternatives; a single text needs no choice. -/
def offer (flags : Flags) : List (List Char) → List Piece
  | [] => []
  | [text] => text.map (literal flags)
  | text :: next :: texts =>
      choice (text.map (literal flags)) ((next :: texts).map (List.map (literal flags)))

/-- Alternatives are read as the choice between their texts. -/
theorem run_alternatives {text : List Char} {texts : List (List Char)} {fuel : Nat}
    (enough : (literalTokens text ++ barredTokens texts).length + 1 < fuel) (index : Nat) :
    ∃ after, (alternatives fuel source.flags true).run
        (source.before (literalTokens text ++ barredTokens texts) index) =
      .ok (offer source.flags (text :: texts), source.before [] after) := by
  obtain _ | fuel := fuel
  · cases enough
  simp only [List.length_append, literalTokens, List.length_map] at enough
  obtain ⟨between, own⟩ := @run_sequence source _ source.flags
    (fun _ => isToken_of_mem_barredTokens) (head?_barredTokens texts) terse text fuel (by omega) index
    true []
  rw [alternatives, run_bind own, run_bind (run_peek between)]
  cases texts with
  | nil => exact ⟨between, rfl⟩
  | cons next rest =>
      obtain ⟨after, others⟩ :=
        @run_moreAlternatives source terse (next :: rest) fuel (by omega) between
      refine ⟨after, ?_⟩
      rw [barredTokens_cons] at others ⊢
      exact run_bind others

end Choices

/-- A pattern text of alternatives is read to its end. -/
theorem run_whole (text : String) (texts : List String) (ignoreCase : Bool) :
    ∃ last, (whole ignoreCase).run (.ofText (anyOf (text :: texts)) {}) =
      .ok (⟨offer { ignoreCase := ignoreCase } ((text :: texts).map String.toList), ignoreCase⟩,
        last) := by
  have areTokens : ∀ token ∈ literalTokens text.toList ++ barredTokens (texts.map String.toList),
      IsToken token := fun _ => isToken_of_mem_append
  have short := length_le_flatten areTokens
  rw [← anyOf_cons] at short
  obtain ⟨opened, advanced⟩ :=
    @run_advance (.ofText (anyOf (text :: texts)) {}) _ areTokens (anyOf_cons text texts)
  obtain ⟨after, read⟩ :=
    @run_alternatives (.ofText (anyOf (text :: texts)) { ignoreCase := ignoreCase }) rfl text.toList
      (texts.map String.toList) (4 * (anyOf (text :: texts)).length + 16) (by omega) opened
  refine ⟨(Source.ofText (anyOf (text :: texts)) { ignoreCase := ignoreCase }).before [] after, ?_⟩
  rw [whole, run_bind advanced, run_get]
  show StateT.run (set _ >>= _) _ = _
  rw [run_set]
  exact (run_bind read).trans rfl

end Step

open Regex.Step (literal offer)

/-- The pattern of alternatives offers their texts. -/
theorem compile_anyOf (text : String) (texts : List String) (ignoreCase : Bool) :
    compile (anyOf (text :: texts)) ignoreCase =
      .ok ⟨offer { ignoreCase := ignoreCase } ((text :: texts).map String.toList), ignoreCase⟩ := by
  obtain ⟨last, ran⟩ := Step.run_whole text texts ignoreCase
  rw [compile]
  show ((Step.whole ignoreCase).run (.ofText (anyOf (text :: texts)) {}) >>= _) = _
  rw [ran]
  rfl

/-! ## Common fronts -/

theorem isSame_literal (flags : Flags) (c d : Char) :
    (literal flags c).isSame (literal flags d) = (d == c) := by
  rw [Bool.eq_iff_iff, beq_iff_eq]
  simp only [literal, Piece.isSame, beq_iff_eq, CharSet.mk.injEq, List.cons.injEq, SetItem.code.injEq,
    and_true]
  exact ⟨fun same => (Char.toNat_inj.mp same).symm, fun same => by rw [same]⟩

private theorem head?_isSame_literal (flags : Flags) (c : Char) (other : List Char) :
    (other.map (literal flags)).head?.any (literal flags c).isSame = (other.head? == some c) := by
  cases other with
  | nil => rfl
  | cons d rest => exact isSame_literal flags c d

private theorem map_cons_tail {c : Char} {words : List (List Char)}
    (shared : ∀ word ∈ words, word.head? = some c) : (words.map List.tail).map (c :: ·) = words := by
  rw [List.map_map]
  refine (List.map_congr_left fun word listed => ?_).trans (List.map_id words)
  obtain ⟨rest, rfl⟩ := List.head?_eq_some_iff.mp (shared word listed)
  rfl

/-- Alternatives are the letters that all of them start with, and a choice between what is left. -/
theorem choice_literals (flags : Flags) (first : List Char) (others : List (List Char)) :
    ∃ front, first :: others = (Text.endings first others).map (front ++ ·) ∧
      choice (first.map (literal flags)) (others.map (List.map (literal flags))) =
        front.map (literal flags) ++
          [branchOf ((Text.endings first others).map (List.map (literal flags)))] := by
  induction first generalizing others with
  | nil => exact ⟨[], by simp [Text.endings], rfl⟩
  | cons c first inductionHypothesis =>
      rw [List.map_cons, choice, Text.endings, List.all_map]
      simp only [Function.comp_def, head?_isSame_literal]
      split
      · next shared =>
          have isShared : ∀ word ∈ others, word.head? = some c := by simpa using shared
          obtain ⟨front, isFront, isChoice⟩ := inductionHypothesis (others.map List.tail)
          refine ⟨c :: front, ?_, ?_⟩
          · have extended := congrArg (List.map (c :: ·)) isFront
            rw [List.map_cons, map_cons_tail isShared, List.map_map] at extended
            exact extended
          · rw [List.map_map] at isChoice
            rw [List.map_map, List.map_cons, List.cons_append, ← isChoice]
            simp only [Function.comp_def, List.map_tail]
      · exact ⟨[], by simp, rfl⟩

private theorem exists_letters {words : List (List Char)} (single : ∀ word ∈ words, word.length = 1) :
    ∃ letters : List Char, words = letters.map fun c => [c] := by
  refine ⟨words.flatten, ?_⟩
  induction words with
  | nil => rfl
  | cons word rest inductionHypothesis =>
      obtain ⟨own, others⟩ := List.forall_mem_cons.mp single
      obtain ⟨c, rfl⟩ := List.length_eq_one_iff.mp own
      rw [List.flatten_cons, List.singleton_append, List.map_cons, ← inductionHypothesis others]

/-- What is left of several words, if it is one letter of each, is not the same letter of all. -/
theorem exists_ne_of_endings {first : List Char} {others : List (List Char)} (several : others ≠ [])
    (single : ∀ ending ∈ Text.endings first others, ending.length = 1) :
    ∃ one ∈ Text.endings first others, ∃ other ∈ Text.endings first others, one ≠ other := by
  induction first generalizing others with
  | nil => exact absurd (single [] List.mem_cons_self) (by decide)
  | cons c first inductionHypothesis =>
      unfold Text.endings at single ⊢
      split at single
      · next shared =>
          rw [if_pos shared]
          exact inductionHypothesis (by simpa using several) single
      · next unshared =>
          rw [if_neg unshared]
          simp only [List.all_eq_true, beq_iff_eq, not_forall] at unshared
          obtain ⟨other, listed, differs⟩ := unshared
          refine ⟨c :: first, List.mem_cons_self, other, List.mem_cons_of_mem _ listed, ?_⟩
          rintro rfl
          exact differs rfl

/-! ## Choices -/

/-- Single letters are put together to one set. -/
theorem branchOf_letters (flags : Flags) (first : Char) (others : List Char) :
    branchOf ((first :: others).map fun c => [literal flags c]) =
      .char ⟨((first :: others).map fun c => SetItem.code c.toNat).eraseDups, false, flags.mode,
        flags.ascii⟩ := by
  have sets : ((first :: others).map fun c => [literal flags c]).mapM setOf? =
      some ((first :: others).map fun c => ⟨[.code c.toNat], false, flags.mode, flags.ascii⟩) := by
    rw [Sequence.mapM_eq_some_iff, List.forall₂_map_left_iff, List.forall₂_map_right_iff]
    exact List.forall₂_same.mpr fun c _ => rfl
  rw [branchOf, sets, List.map_cons]
  simp only [List.flatMap_map, List.map_cons, List.singleton_append]
  rw [List.map_eq_flatMap]

/-- Other words stay alternatives. -/
theorem branchOf_words (flags : Flags) {words : List (List Char)} {word : List Char}
    (listed : word ∈ words) (isLong : word.length ≠ 1) :
    branchOf (words.map (List.map (literal flags))) =
      .branch (words.map (List.map (literal flags))) := by
  have noSets : (words.map (List.map (literal flags))).mapM setOf? = none := by
    cases sets : (words.map (List.map (literal flags))).mapM setOf? with
    | none => rfl
    | some found =>
        rw [Sequence.mapM_eq_some_iff, List.forall₂_map_left_iff] at sets
        obtain ⟨set, _, isSet⟩ := Sequence.exists_related_of_mem sets.flip listed
        match word with
        | [] => cases isSet
        | [c] => exact absurd rfl isLong
        | _ :: _ :: _ => cases isSet
  rw [branchOf, noSets]

/-! ## Matching -/

theorem admits_literal (c d : Char) :
    CharSet.admits ⟨[.code c.toNat], false, Flags.mode { ignoreCase := true }, false⟩ d =
      Text.sameIgnoringCase c d := by
  simp [CharSet.admits, SetItem.admits, CaseMode.admits, CaseMode.same, Flags.mode, CaseMode.fold,
    Text.sameIgnoringCase]

/-- Beside other letters, a capital past sixteen bits admits nothing. -/
theorem admits_beside (c d : Char) :
    CaseMode.full.admits false c.toNat d = (!Text.isFarCapital c && Text.sameIgnoringCase c d) := by
  unfold CaseMode.admits
  by_cases near : c.toNat ≤ 0xFFFF
  · have isSmall : Text.isFarCapital c = false := by
      simp [Text.isFarCapital, Nat.not_lt.mpr near]
    simp [near, isSmall, CaseMode.same, CaseMode.fold, Text.sameIgnoringCase]
  · rw [Bool.eq_iff_iff]
    simp only [near, decide_false, Bool.or_false, bne_self_eq_false, Bool.false_eq_true, ↓reduceIte,
      CaseMode.fold, beq_iff_eq, Bool.and_eq_true, Bool.not_eq_true']
    exact Text.eq_fold_iff_of_far (Nat.lt_of_not_le near)

/-- A set of several letters admits what one of them admits, without the capitals past sixteen bits. -/
theorem admits_letters {letters : List Char} {one other : Char} (isOne : one ∈ letters)
    (isOther : other ∈ letters) (differ : one ≠ other) (d : Char) :
    CharSet.admits ⟨(letters.map fun c => SetItem.code c.toNat).eraseDups, false,
        Flags.mode { ignoreCase := true }, false⟩ d =
      letters.any fun c => !Text.isFarCapital c && Text.sameIgnoringCase c d := by
  have several : ((letters.map fun c => SetItem.code c.toNat).eraseDups.length == 1) = false := by
    rw [beq_eq_false_iff_ne]
    intro isSingle
    obtain ⟨item, isItem⟩ := List.length_eq_one_iff.mp isSingle
    have isAlone {c : Char} (member : c ∈ letters) : SetItem.code c.toNat = item := by
      have kept : SetItem.code c.toNat ∈ (letters.map fun c => SetItem.code c.toNat).eraseDups :=
        List.mem_eraseDups.mpr (List.mem_map.mpr ⟨c, member, rfl⟩)
      rw [isItem] at kept
      exact List.mem_singleton.mp kept
    have same := (isAlone isOne).trans (isAlone isOther).symm
    exact differ (Char.toNat_inj.mp (SetItem.code.inj same))
  simp only [CharSet.admits, several, Bool.bne_false]
  rw [Bool.eq_iff_iff]
  simp only [List.any_eq_true, List.mem_eraseDups, List.mem_map, exists_exists_and_eq_and,
    SetItem.admits, ← admits_beside]
  exact Iff.rfl

section Places

variable (text : Array Char) (place : Place)

private theorem matchPieces_append (front rest : List Piece) (next : Next) :
    matchPieces text (front ++ rest) place next =
      matchPieces text front place fun after => matchPieces text rest after next := by
  induction front generalizing place with
  | nil => rw [List.nil_append, matchPieces]
  | cons piece front inductionHypothesis =>
      rw [List.cons_append, matchPieces, matchPieces]
      simp only [inductionHypothesis]

/-- What stands at an index is the first character of the rest from there on. -/
theorem drop_eq_of_get (index : Nat) :
    text.toList.drop index =
      match text[index]? with
      | some d => d :: text.toList.drop (index + 1)
      | none => [] := by
  cases found : text[index]? with
  | none => simpa using found
  | some d =>
      obtain ⟨inside, isHere⟩ := Array.getElem?_eq_some_iff.mp found
      rw [List.drop_eq_getElem_cons (by simpa using inside), Array.getElem_toList, isHere]

/-- The pieces of a text match where the text starts. -/
theorem matchPieces_literals (keyword : List Char) (next : Next) :
    matchPieces text (keyword.map (literal { ignoreCase := true })) place next =
      if Text.startsWith keyword (text.toList.drop place.index) then
        next { place with index := place.index + keyword.length }
      else none := by
  induction keyword generalizing place with
  | nil => simp [matchPieces, Text.startsWith]
  | cons c keyword inductionHypothesis =>
      rw [List.map_cons, matchPieces, literal, matchPiece, drop_eq_of_get]
      cases text[place.index]? with
      | none => simp [Text.startsWith]
      | some d =>
          simp only [Text.startsWith, admits_literal, inductionHypothesis]
          by_cases same : Text.sameIgnoringCase c d = true <;>
            simp [same, Nat.add_assoc, Nat.add_comm 1]

/-- Alternatives match where one of them starts. -/
theorem matchAny_literals (keywords : List (List Char)) :
    (matchAny text (keywords.map (List.map (literal { ignoreCase := true }))) place some).isSome =
      keywords.any fun keyword => Text.startsWith keyword (text.toList.drop place.index) := by
  induction keywords with
  | nil => simp [matchAny]
  | cons keyword rest inductionHypothesis =>
      rw [List.map_cons, matchAny, matchPieces_literals, List.any_cons]
      cases Text.startsWith keyword (text.toList.drop place.index) <;> simp [inductionHypothesis]

/-- A set of several letters matches where one of them stands. -/
theorem matchPiece_letters {letters : List Char} {one other : Char} (isOne : one ∈ letters)
    (isOther : other ∈ letters) (differ : one ≠ other) :
    (matchPiece text (.char ⟨(letters.map fun c => SetItem.code c.toNat).eraseDups, false,
        Flags.mode { ignoreCase := true }, false⟩) place some).isSome =
      letters.any fun c =>
        !Text.isFarCapital c && Text.startsWith [c] (text.toList.drop place.index) := by
  rw [matchPiece, drop_eq_of_get]
  cases text[place.index]? with
  | none => simp [Text.startsWith]
  | some d =>
      simp only [admits_letters isOne isOther differ, Text.startsWith, Bool.and_true]
      cases letters.any fun c => !Text.isFarCapital c && Text.sameIgnoringCase c d <;> rfl

end Places

end Regex

/-! ## Words that are sought at once -/

namespace Text

private theorem startsWith_append (front word text : List Char) :
    startsWith (front ++ word) text =
      (startsWith front text && startsWith word (text.drop front.length)) := by
  induction front generalizing text with
  | nil => simp [startsWith]
  | cons c front inductionHypothesis =>
      cases text with
      | nil => rw [List.cons_append, startsWith, startsWith, Bool.false_and]
      | cons d text =>
          rw [List.cons_append, startsWith, startsWith, inductionHypothesis, Bool.and_assoc,
            List.length_cons, List.drop_succ_cons]

/-- A keyword occurs where some end of the text starts with it. -/
theorem occurs_iff_startsWith {keyword text : List Char} :
    Occurs keyword text ↔ ∃ start ≤ text.length, startsWith keyword (text.drop start) = true := by
  simp only [startsWith_iff]
  constructor
  · rintro ⟨part, ⟨before, after, rfl⟩, same⟩
    refine ⟨before.length, by simp, part, ?_, same⟩
    rw [List.append_assoc, List.drop_left]
    exact List.prefix_append part after
  · rintro ⟨start, _, part, isPrefix, same⟩
    exact ⟨part, isPrefix.isInfix.trans (List.drop_suffix start text).isInfix, same⟩

/-- The word is found when it is sought together with the words. -/
def isFoundAmong (words : List (List Char)) (word : List Char) : Bool :=
  !(areLetters words && word.getLast?.any isFarCapital)

theorem sought_eq (keywords : List String) :
    sought keywords =
      keywords.filter fun keyword => isFoundAmong (keywords.map String.toList) keyword.toList := by
  unfold sought isFoundAmong
  split
  · next letters => simp [letters]
  · next noLetters => simp [noLetters]

end Text

namespace Regex

open Regex.Step (literal offer)
open Text (startsWith isFoundAmong)

/-- The choice between endings matches where one of them starts that is found. -/
theorem matchPieces_endings (text : Array Char) (place : Place) {first : List Char}
    {others : List (List Char)} (several : others ≠ []) :
    (matchPieces text [branchOf ((Text.endings first others).map
        (List.map (literal { ignoreCase := true })))] place some).isSome =
      (Text.endings first others).any fun ending =>
        !((Text.endings first others).all (·.length == 1) && ending.getLast?.any Text.isFarCapital) &&
          startsWith ending (text.toList.drop place.index) := by
  rw [matchPieces]
  show (matchPiece text _ place some).isSome = _
  by_cases single : ∀ ending ∈ Text.endings first others, ending.length = 1
  · obtain ⟨one, isOne, other, isOther, differ⟩ := exists_ne_of_endings several single
    obtain ⟨letters, areLetters⟩ := exists_letters single
    have allSingle : (Text.endings first others).all (·.length == 1) = true := by simpa using single
    simp only [allSingle, Bool.true_and]
    rw [areLetters] at isOne isOther ⊢
    obtain ⟨c, isC, rfl⟩ := List.mem_map.mp isOne
    obtain ⟨d, isD, rfl⟩ := List.mem_map.mp isOther
    have differs : c ≠ d := fun same => differ (by rw [same])
    rw [List.map_map]
    show (matchPiece text (branchOf (letters.map fun c => [literal _ c])) place some).isSome = _
    obtain ⟨head, tail, rfl⟩ := List.exists_cons_of_ne_nil (List.ne_nil_of_mem isC)
    rw [branchOf_letters, List.any_map]
    exact matchPiece_letters text place isC isD differs
  · obtain ⟨word, listed, isLong⟩ : ∃ word ∈ Text.endings first others, word.length ≠ 1 := by
      simpa using single
    have words : (Text.endings first others).all (·.length == 1) = false :=
      List.all_eq_false.mpr ⟨word, listed, by simpa using isLong⟩
    rw [branchOf_words _ listed isLong, matchPiece, matchAny_literals]
    simp only [words, Bool.false_and, Bool.not_false, Bool.true_and]

/-- What is offered matches where one of the words starts that are found together. -/
theorem matchPieces_offer (text : Array Char) (place : Place) (first : List Char)
    (others : List (List Char)) :
    (matchPieces text (offer { ignoreCase := true } (first :: others)) place some).isSome =
      (first :: others).any fun word =>
        isFoundAmong (first :: others) word && startsWith word (text.toList.drop place.index) := by
  cases others with
  | nil =>
      rw [offer, matchPieces_literals, List.any_cons, List.any_nil, Bool.or_false]
      show _ = startsWith first _
      cases startsWith first (text.toList.drop place.index) <;> rfl
  | cons next rest =>
      obtain ⟨front, isFront, isChoice⟩ := choice_literals { ignoreCase := true } first (next :: rest)
      rw [offer, isChoice, matchPieces_append, matchPieces_literals, isFront, List.any_map]
      have ends := @matchPieces_endings text { place with index := place.index + front.length } first
        (next :: rest) (by simp)
      simp only [Function.comp_def, Text.startsWith_append, List.drop_drop]
      by_cases starts : startsWith front (text.toList.drop place.index) = true
      · have letters : Text.areLetters ((Text.endings first (next :: rest)).map (front ++ ·)) =
            (Text.endings first (next :: rest)).all (·.length == 1) := by
          rw [← isFront]
          rfl
        rw [if_pos starts, ends]
        rw [Bool.eq_iff_iff, List.any_eq_true, List.any_eq_true]
        refine exists_congr fun ending => and_congr_right fun listed => ?_
        simp only [isFoundAmong, letters, starts, Bool.true_and]
        cases single : (Text.endings first (next :: rest)).all (·.length == 1) with
        | false => exact Iff.rfl
        | true =>
            have isSingle := List.all_eq_true.mp single ending listed
            obtain ⟨c, rfl⟩ := List.length_eq_one_iff.mp (beq_iff_eq.mp isSingle)
            rw [List.getLast?_concat, List.getLast?_singleton]
      · simp [starts]

private theorem search_isSome_iff {pattern : Pattern} {text : List Char} :
    (pattern.search? text).isSome = true ↔
      ∃ start ≤ text.length,
        (matchPieces text.toArray pattern.pieces ⟨start, []⟩ some).isSome = true := by
  rw [Pattern.search?, List.findSome?_isSome_iff]
  simp only [List.mem_range, List.size_toArray, Nat.lt_succ_iff, Option.isSome_map, Pattern.endAt?]

/-- There is a pattern for texts that stand for themselves, and it occurs in a text exactly when one of
those does that are found when all of them are sought. -/
theorem exists_pattern_anyOf {texts : List String} (given : texts ≠ []) :
    ∃ pattern, compile (anyOf texts) true = .ok pattern ∧
      ∀ text, (pattern.search? text).isSome = Text.anyOccursIn (Text.sought texts) text := by
  obtain ⟨first, rest, rfl⟩ := List.exists_cons_of_ne_nil given
  refine ⟨_, compile_anyOf first rest true, ?_⟩
  intro text
  rw [Bool.eq_iff_iff, search_isSome_iff, Text.anyOccursIn_iff, Text.sought_eq]
  simp only [List.map_cons, matchPieces_offer]
  simp only [← List.map_cons, List.any_map, List.any_eq_true, Function.comp_apply, Bool.and_eq_true,
    Text.occurs_iff_startsWith, List.mem_filter]
  constructor
  · rintro ⟨start, inside, word, listed, isFound, starts⟩
    exact ⟨word, ⟨listed, isFound⟩, start, inside, starts⟩
  · rintro ⟨word, ⟨listed, isFound⟩, start, inside, starts⟩
    exact ⟨start, inside, word, listed, isFound, starts⟩

end Regex

end WorkflowLint
