import Mathlib.Data.List.Forall2
import WorkflowLint.Config.Text
import WorkflowLint.Files.Glob

/-!
Contract: what a pattern of names takes out.

A pattern matches a text that falls into parts, one for each piece, and a star may stand for any part,
slashes included.  So a pattern without a slash reaches over the end of a folder: it takes out a path when
one of its wildcards stands for the slash before the last name, and what comes before the wildcard in the
pattern matches the folders.  Main statement: `slashless_pattern_ignores_iff`.
-/

set_option autoImplicit false

namespace WorkflowLint

/-! ## Dividing a list -/

section Division

variable {α β : Type} {stands : α → List β → Prop}

/-- A list falls into parts, for each of which an item stands. -/
def Divided (stands : α → List β → Prop) (items : List α) (whole : List β) : Prop :=
  ∃ parts, List.Forall₂ stands items parts ∧ parts.flatten = whole

theorem divided_nil_iff {whole : List β} : Divided stands [] whole ↔ whole = [] := by
  constructor
  · rintro ⟨parts, stand, rfl⟩
    cases stand
    rfl
  · rintro rfl
    exact ⟨[], .nil, rfl⟩

theorem divided_cons_iff {item : α} {rest : List α} {whole : List β} :
    Divided stands (item :: rest) whole ↔
      ∃ part after, whole = part ++ after ∧ stands item part ∧ Divided stands rest after := by
  constructor
  · rintro ⟨parts, stand, rfl⟩
    cases stand with
    | @cons _ part _ others own stand =>
        exact ⟨part, others.flatten, rfl, own, others, stand, rfl⟩
  · rintro ⟨part, after, rfl, own, others, stand, rfl⟩
    exact ⟨part :: others, .cons own stand, rfl⟩

theorem divided_append_iff {front back : List α} {whole : List β} :
    Divided stands (front ++ back) whole ↔
      ∃ left right, whole = left ++ right ∧ Divided stands front left ∧ Divided stands back right := by
  induction front generalizing whole with
  | nil => simp [divided_nil_iff]
  | cons item front inductionHypothesis =>
      rw [List.cons_append, divided_cons_iff]
      constructor
      · rintro ⟨part, after, rfl, own, divided⟩
        obtain ⟨left, right, rfl, above, below⟩ := inductionHypothesis.mp divided
        refine ⟨part ++ left, right, (List.append_assoc ..).symm, ?_, below⟩
        exact divided_cons_iff.mpr ⟨part, left, rfl, own, above⟩
      · rintro ⟨left, right, rfl, above, below⟩
        obtain ⟨part, after, rfl, own, divided⟩ := divided_cons_iff.mp above
        refine ⟨part, after ++ right, List.append_assoc .., own, ?_⟩
        exact inductionHypothesis.mpr ⟨after, right, rfl, divided, below⟩

end Division

namespace Glob

/-! ## Matching as a division of the text -/

/-- A piece of a pattern stands for a part of a text. -/
inductive Piece.StandsFor : Piece → List Char → Prop where
  | anyText (part : List Char) : StandsFor .anyText part
  | one {piece : Piece} {c : Char} (accepts : piece.accepts c = true) : StandsFor piece [c]

/-- A text falls into parts for which the pieces stand. -/
abbrev Covers (pieces : List Piece) (text : List Char) : Prop :=
  Divided Piece.StandsFor pieces text

theorem covers_anyText_iff {rest : List Piece} {text : List Char} :
    Covers (.anyText :: rest) text ↔ ∃ part after, text = part ++ after ∧ Covers rest after := by
  rw [Covers, divided_cons_iff]
  constructor
  · rintro ⟨part, after, isText, -, covers⟩
    exact ⟨part, after, isText, covers⟩
  · rintro ⟨part, after, isText, covers⟩
    exact ⟨part, after, isText, .anyText part, covers⟩

theorem standsFor_iff_of_ne {piece : Piece} (single : piece ≠ .anyText) {part : List Char} :
    piece.StandsFor part ↔ ∃ c, part = [c] ∧ piece.accepts c = true := by
  constructor
  · rintro (part | @⟨_, c, accepts⟩)
    · exact absurd rfl single
    · exact ⟨c, rfl, accepts⟩
  · rintro ⟨c, rfl, accepts⟩
    exact .one accepts

private theorem holdsOfSuffix_iff {test : List Char → Bool} {text : List Char} :
    holdsOfSuffix test text = true ↔ ∃ part after, text = part ++ after ∧ test after = true := by
  induction text with
  | nil => simp [holdsOfSuffix]
  | cons c text inductionHypothesis =>
      rw [holdsOfSuffix, Bool.or_eq_true, inductionHypothesis]
      constructor
      · rintro (holds | ⟨part, after, rfl, holds⟩)
        · exact ⟨[], c :: text, rfl, holds⟩
        · exact ⟨c :: part, after, rfl, holds⟩
      · rintro ⟨part, after, isText, holds⟩
        cases part with
        | nil => exact .inl (by rwa [isText])
        | cons first part =>
            obtain ⟨rfl, rfl⟩ := List.cons.inj isText
            exact .inr ⟨part, after, rfl, holds⟩

theorem matchesAll_iff {pieces : List Piece} {text : List Char} :
    matchesAll pieces text = true ↔ Covers pieces text := by
  induction pieces generalizing text with
  | nil => rw [matchesAll, List.isEmpty_iff, Covers, divided_nil_iff]
  | cons piece rest inductionHypothesis =>
      by_cases star : piece = .anyText
      · subst star
        rw [matchesAll, holdsOfSuffix_iff, covers_anyText_iff]
        simp only [inductionHypothesis]
      · rw [Covers, divided_cons_iff]
        simp only [standsFor_iff_of_ne star]
        cases text with
        | nil =>
            rw [matchesAll]
            · simp
            · exact star
        | cons c text =>
            rw [matchesAll, Bool.and_eq_true, inductionHypothesis]
            · constructor
              · rintro ⟨accepts, covers⟩
                exact ⟨[c], text, rfl, ⟨c, rfl, accepts⟩, covers⟩
              · rintro ⟨part, after, isText, ⟨d, rfl, accepts⟩, covers⟩
                obtain ⟨rfl, rfl⟩ := List.cons.inj isText
                exact ⟨accepts, covers⟩
            · exact star

theorem fits_iff {pattern name : String} :
    fits pattern name = true ↔ Covers (pieces pattern.toList) name.toList := matchesAll_iff

/-- A pattern takes a path out: it covers the path, with its two stars for folders or without them. -/
def TakesOut (pattern path : List Char) : Prop :=
  Covers (pieces pattern) path ∨ ∃ rest, pattern = '*' :: '*' :: '/' :: rest ∧ Covers (pieces rest) path

theorem fitsAnywhere_iff {pattern path : String} :
    fitsAnywhere pattern path = true ↔ TakesOut pattern.toList path.toList := by
  rw [fitsAnywhere, Bool.or_eq_true, fits_iff, TakesOut]
  refine or_congr_right ?_
  split
  next rest isPattern => simp [isPattern, matchesAll_iff]
  next noFolders => simpa using fun rest isPattern => absurd isPattern (noFolders rest)

theorem isIgnored_iff {patterns : List String} {path : String} :
    isIgnored patterns path = true ↔ ∃ pattern ∈ patterns, TakesOut pattern.toList path.toList := by
  simp only [isIgnored, List.any_eq_true, fitsAnywhere_iff]

/-! ## Slashes -/

/-- A piece can stand for a part with a slash in it. -/
def Piece.TakesSlash (piece : Piece) : Prop := piece = .anyText ∨ piece.accepts '/' = true

/-- A wildcard stands for the slash between folders and a name, a star together with characters on both
sides. -/
inductive Bridges (pieces : List Piece) (folders name : List Char) : Prop where
  | star {front back : List Piece} (isSplit : pieces = front ++ .anyText :: back)
      (above : Covers (front ++ [.anyText]) folders) (below : Covers (.anyText :: back) name)
  | single {front back : List Piece} {wild : Piece} (isSplit : pieces = front ++ wild :: back)
      (isWild : wild ≠ .char '/') (takes : wild.accepts '/' = true) (above : Covers front folders)
      (below : Covers back name)

theorem Bridges.cons {piece : Piece} {rest : List Piece} {part folders name : List Char}
    (own : piece.StandsFor part) (bridges : Bridges rest folders name) :
    Bridges (piece :: rest) (part ++ folders) name := by
  cases bridges with
  | @star front back isSplit above below =>
      have isSplit : piece :: rest = (piece :: front) ++ .anyText :: back :=
        congrArg (piece :: ·) isSplit
      refine .star isSplit ?_ below
      exact divided_cons_iff.mpr ⟨part, folders, rfl, own, above⟩
  | @single front back wild isSplit isWild takes above below =>
      have isSplit : piece :: rest = (piece :: front) ++ wild :: back := congrArg (piece :: ·) isSplit
      refine .single isSplit isWild takes ?_ below
      exact divided_cons_iff.mpr ⟨part, folders, rfl, own, above⟩

/-- Where a list is cut, the slash in it lies before the cut or behind it. -/
theorem slash_before_or_behind {folders name part after : List Char}
    (isText : folders ++ '/' :: name = part ++ after) :
    (∃ ahead, part = folders ++ '/' :: ahead ∧ name = ahead ++ after) ∨
      ∃ left, folders = part ++ left ∧ after = left ++ '/' :: name := by
  rcases List.append_eq_append_iff.mp isText with ⟨ahead, isPart, isRest⟩ | ⟨left, isFolders, isAfter⟩
  · cases ahead with
    | nil => exact .inr ⟨[], by simpa using isPart.symm, by simpa using isRest.symm⟩
    | cons c ahead =>
        obtain ⟨rfl, isName⟩ := List.cons.inj isRest
        exact .inl ⟨ahead, isPart, isName⟩
  · exact .inr ⟨left, isFolders, isAfter⟩

private theorem bridges_of_covers {pieces : List Piece} {folders name : List Char}
    (slashless : .char '/' ∉ pieces) (covers : Covers pieces (folders ++ '/' :: name)) :
    Bridges pieces folders name := by
  induction pieces generalizing folders with
  | nil => simp [divided_nil_iff] at covers
  | cons piece rest inductionHypothesis =>
      have isWild : piece ≠ .char '/' := fun isChar => slashless (isChar ▸ List.mem_cons_self)
      have behind : .char '/' ∉ rest := fun isIn => slashless (List.mem_cons_of_mem _ isIn)
      obtain ⟨part, after, isText, own, covered⟩ := divided_cons_iff.mp covers
      rcases slash_before_or_behind isText with ⟨ahead, rfl, rfl⟩ | ⟨left, rfl, rfl⟩
      · by_cases star : piece = .anyText
        · subst star
          refine @Bridges.star _ _ _ [] rest rfl ?_ ?_
          · exact covers_anyText_iff.mpr ⟨folders, [], by simp, divided_nil_iff.mpr rfl⟩
          · exact covers_anyText_iff.mpr ⟨ahead, after, rfl, covered⟩
        · obtain ⟨c, isPart, accepts⟩ := (standsFor_iff_of_ne star).mp own
          obtain ⟨rfl, rfl, rfl⟩ : folders = [] ∧ '/' = c ∧ ahead = [] := by
            simpa [List.append_eq_singleton_iff] using isPart
          refine @Bridges.single _ _ _ [] rest piece rfl isWild accepts ?_ covered
          exact divided_nil_iff.mpr rfl
      · exact (inductionHypothesis behind covered).cons own

private theorem covers_of_bridges {pieces : List Piece} {folders name : List Char}
    (bridges : Bridges pieces folders name) : Covers pieces (folders ++ '/' :: name) := by
  cases bridges with
  | @star front back isSplit above below =>
      obtain ⟨left, middle, rfl, front, star⟩ := divided_append_iff.mp above
      obtain ⟨part, after, rfl, behind⟩ := covers_anyText_iff.mp below
      rw [isSplit, Covers, divided_append_iff]
      refine ⟨left, middle ++ '/' :: (part ++ after), by simp, front, ?_⟩
      exact covers_anyText_iff.mpr ⟨middle ++ '/' :: part, after, by simp, behind⟩
  | @single front back wild isSplit isWild takes above below =>
      rw [isSplit, Covers, divided_append_iff]
      refine ⟨folders, '/' :: name, rfl, above, ?_⟩
      exact divided_cons_iff.mpr ⟨['/'], name, rfl, .one takes, below⟩

/-! ## Shortest texts -/

/-- The pieces that stand for one character. -/
def singles (pieces : List Piece) : Nat := pieces.countP (· ≠ .anyText)

theorem singles_anyText (rest : List Piece) : singles (.anyText :: rest) = singles rest := by
  simp [singles]

theorem singles_cons_of_ne {piece : Piece} (single : piece ≠ .anyText) (rest : List Piece) :
    singles (piece :: rest) = singles rest + 1 := by
  simp [singles, single]

private theorem singles_le_length {pieces : List Piece} {text : List Char}
    (covers : Covers pieces text) :
    singles pieces ≤ text.length := by
  induction pieces generalizing text with
  | nil => exact Nat.zero_le _
  | cons piece rest inductionHypothesis =>
      obtain ⟨part, after, rfl, own, covered⟩ := divided_cons_iff.mp covers
      have behind : singles rest ≤ after.length := inductionHypothesis covered
      rw [List.length_append]
      by_cases star : piece = .anyText
      · rw [star, singles_anyText]
        omega
      · obtain ⟨c, rfl, -⟩ := (standsFor_iff_of_ne star).mp own
        rw [singles_cons_of_ne star, List.length_singleton]
        omega

/-- Each piece can be left out or stands for some character of a name. -/
def Usable (pieces : List Piece) : Prop :=
  ∀ piece ∈ pieces, piece = .anyText ∨ ∃ c, c ≠ '/' ∧ piece.accepts c = true

theorem exists_shortest {pieces : List Piece} (usable : Usable pieces) :
    ∃ text, Covers pieces text ∧ text.length = singles pieces ∧ '/' ∉ text := by
  induction pieces with
  | nil => exact ⟨[], divided_nil_iff.mpr rfl, rfl, List.not_mem_nil⟩
  | cons piece rest inductionHypothesis =>
      obtain ⟨own, others⟩ := List.forall_mem_cons.mp usable
      obtain ⟨text, covers, isShortest, slashless⟩ := inductionHypothesis others
      by_cases star : piece = .anyText
      · subst star
        refine ⟨text, ?_, by rw [singles_anyText, isShortest], slashless⟩
        exact covers_anyText_iff.mpr ⟨[], text, rfl, covers⟩
      · obtain ⟨c, isOther, accepts⟩ := own.resolve_left star
        refine ⟨c :: text, ?_, ?_, List.not_mem_cons_of_ne_of_not_mem isOther.symm slashless⟩
        · exact divided_cons_iff.mpr ⟨[c], text, rfl, .one accepts, covers⟩
        · rw [List.length_cons, isShortest, singles_cons_of_ne star]

/-! ## The characters of a pattern -/

theorem after_suffix_of_bracketText? {text inner after : List Char}
    (closed : bracketText? text = some (inner, after)) : after <:+ text := by
  revert closed
  fun_cases bracketText? text with
  | case1 head tail isSplit mark rest isRest =>
      intro closed
      obtain ⟨-, rfl⟩ := Prod.mk.inj (Option.some.inj closed)
      have isTail : tail <:+ text := by
        split at isSplit
        all_goals obtain ⟨-, rfl⟩ := Prod.mk.inj isSplit
        · exact List.suffix_append ['!', ']'] _
        · exact List.suffix_cons _ _
        · exact List.suffix_cons _ _
        · exact List.suffix_rfl
      have isDropped : rest <:+ tail.dropWhile (· != ']') := isRest ▸ List.suffix_cons mark rest
      exact (isDropped.trans (List.dropWhile_suffix _)).trans isTail
  | case2 head tail isSplit isRest =>
      intro closed
      cases closed

private theorem bracketPiece_ne_char (text : List Char) (c : Char) : bracketPiece text ≠ .char c := by
  rw [bracketPiece]
  split <;> simp

private theorem mem_of_char_mem_piecesFrom {fuel : Nat} {text : List Char} {c : Char}
    (isPiece : .char c ∈ piecesFrom fuel text) : c ∈ text := by
  fun_induction piecesFrom fuel text with
  | case1 => cases isPiece
  | case2 => cases isPiece
  | case3 fuel rest inductionHypothesis =>
      exact List.mem_cons_of_mem _ (inductionHypothesis (by simpa using isPiece))
  | case4 fuel rest inductionHypothesis =>
      exact List.mem_cons_of_mem _ (inductionHypothesis (by simpa using isPiece))
  | case5 fuel rest inner after closed inductionHypothesis =>
      have isIn : c ∈ after := (List.mem_cons.mp isPiece).elim
        (fun isFirst => absurd isFirst.symm (bracketPiece_ne_char inner c)) inductionHypothesis
      exact List.mem_cons_of_mem _ ((after_suffix_of_bracketText? closed).subset isIn)
  | case6 fuel rest isOpen inductionHypothesis =>
      rw [List.mem_cons] at isPiece ⊢
      exact isPiece.imp Piece.char.inj inductionHypothesis
  | case7 fuel first rest _ _ _ inductionHypothesis =>
      rw [List.mem_cons] at isPiece ⊢
      exact isPiece.imp Piece.char.inj inductionHypothesis

/-! ## Patterns without a slash -/

theorem isIgnored_iff_covers {pattern : String} (slashless : '/' ∉ pattern.toList) {path : String} :
    isIgnored [pattern] path = true ↔ Covers (pieces pattern.toList) path.toList := by
  have isWhole : TakesOut pattern.toList path.toList ↔ Covers (pieces pattern.toList) path.toList := by
    refine or_iff_left ?_
    rintro ⟨rest, isPattern, -⟩
    exact slashless (by simp [isPattern])
  simp only [isIgnored_iff, List.mem_singleton, exists_eq_left, isWhole]

/-- Leading stars apart, no piece of the pattern can stand for a slash. -/
def StarsAhead (pieces : List Piece) : Prop :=
  ∀ piece ∈ pieces.dropWhile (· = .anyText), ¬piece.TakesSlash

instance (pieces : List Piece) : Decidable (StarsAhead pieces) :=
  inferInstanceAs (Decidable (∀ piece ∈ pieces.dropWhile (· = .anyText),
    ¬(piece = .anyText ∨ piece.accepts '/' = true)))

private theorem slash_not_mem_of_covers {pieces : List Piece} {text : List Char}
    (takesNone : ∀ piece ∈ pieces, ¬piece.TakesSlash) (covers : Covers pieces text) : '/' ∉ text := by
  induction pieces generalizing text with
  | nil =>
      rw [Covers, divided_nil_iff] at covers
      exact covers ▸ List.not_mem_nil
  | cons piece rest inductionHypothesis =>
      obtain ⟨own, others⟩ := List.forall_mem_cons.mp takesNone
      obtain ⟨part, after, rfl, stands, covered⟩ := divided_cons_iff.mp covers
      obtain ⟨c, rfl, accepts⟩ := (standsFor_iff_of_ne fun star => own (.inl star)).mp stands
      have isOther : '/' ≠ c := by
        rintro rfl
        exact own (.inr accepts)
      exact List.not_mem_cons_of_ne_of_not_mem isOther (inductionHypothesis others covered)

private theorem covers_name_of_starsAhead {pieces : List Piece} {folders name : List Char}
    (starsAhead : StarsAhead pieces) (covers : Covers pieces (folders ++ '/' :: name)) :
    Covers pieces name := by
  induction pieces generalizing folders with
  | nil => simp [divided_nil_iff] at covers
  | cons piece rest inductionHypothesis =>
      by_cases star : piece = .anyText
      · subst star
        have behind : StarsAhead rest := by simpa [StarsAhead] using starsAhead
        obtain ⟨part, after, isText, covered⟩ := covers_anyText_iff.mp covers
        rcases slash_before_or_behind isText with ⟨ahead, -, rfl⟩ | ⟨left, rfl, rfl⟩
        · exact covers_anyText_iff.mpr ⟨ahead, after, rfl, covered⟩
        · have whole : Covers rest name := inductionHypothesis behind covered
          exact covers_anyText_iff.mpr ⟨[], name, rfl, whole⟩
      · have takesNone : ∀ own ∈ piece :: rest, ¬own.TakesSlash := by
          rwa [StarsAhead, List.dropWhile_cons_of_neg (by simpa using star)] at starsAhead
        have isIn : '/' ∈ folders ++ '/' :: name := List.mem_append_right _ List.mem_cons_self
        exact absurd isIn (slash_not_mem_of_covers takesNone covers)

theorem mem_of_covers {pieces : List Piece} {text : List Char} {c : Char}
    (covers : Covers pieces text) (isPiece : .char c ∈ pieces) : c ∈ text := by
  obtain ⟨front, back, rfl⟩ := List.append_of_mem isPiece
  obtain ⟨left, right, rfl, -, below⟩ := divided_append_iff.mp covers
  obtain ⟨part, after, rfl, own, -⟩ := divided_cons_iff.mp below
  obtain ⟨d, rfl, accepts⟩ := (standsFor_iff_of_ne (by simp)).mp own
  rw [Piece.accepts, beq_iff_eq] at accepts
  simp [accepts]

/-- A star behind a character takes out a file whose own name does not match. -/
theorem exists_hidden {front back : List Piece} {c : Char} (literal : .char c ∈ front)
    (usable : Usable (front ++ .anyText :: back)) :
    ∃ folders name, Bridges (front ++ .anyText :: back) folders name ∧
      ¬Covers (front ++ .anyText :: back) name ∧
      folders ≠ [] ∧ name ≠ [] ∧ '/' ∉ folders ∧ '/' ∉ name := by
  obtain ⟨folders, above, -, plainFolders⟩ :=
    exists_shortest fun piece isIn => usable piece (List.mem_append_left _ isIn)
  obtain ⟨ending, below, isShortest, plainEnding⟩ :=
    exists_shortest fun piece isIn =>
      usable piece (List.mem_append_right front (List.mem_cons_of_mem _ isIn))
  have someFolder : folders ≠ [] := List.ne_nil_of_mem (mem_of_covers above literal)
  have aboveStar : Covers (front ++ [.anyText]) folders :=
    divided_append_iff.mpr ⟨folders, [], by simp, above,
      covers_anyText_iff.mpr ⟨[], [], rfl, divided_nil_iff.mpr rfl⟩⟩
  by_cases isEmpty : ending = []
  · -- Nothing has to follow the star, so any name will do that lacks the character before it.
    obtain ⟨d, isOther, plain⟩ : ∃ d, c ≠ d ∧ '/' ≠ d := by
      by_cases isA : c = 'a'
      · exact ⟨'b', by simp [isA], by decide⟩
      · exact ⟨'a', isA, by decide⟩
    refine ⟨folders, [d], .star rfl aboveStar ?_, ?_, someFolder, by simp, plainFolders, by simpa⟩
    · exact covers_anyText_iff.mpr ⟨[d], ending, by simp [isEmpty], below⟩
    · intro covers
      have isIn : c ∈ [d] := mem_of_covers covers (List.mem_append_left _ literal)
      exact isOther (List.mem_singleton.mp isIn)
  · -- The shortest ending is too short for the whole pattern.
    refine ⟨folders, ending, .star rfl aboveStar ?_, ?_, someFolder, isEmpty, plainFolders, plainEnding⟩
    · exact covers_anyText_iff.mpr ⟨[], ending, rfl, below⟩
    · intro covers
      have isLong : singles (front ++ .anyText :: back) ≤ ending.length := singles_le_length covers
      have isSome : 0 < singles front := List.countP_pos_iff.mpr ⟨.char c, literal, by simp⟩
      have isSum : singles (front ++ .anyText :: back) = singles front + singles back := by
        simp [singles]
      omega

private theorem char_slash_not_mem {pattern : String} (slashless : '/' ∉ pattern.toList) :
    .char '/' ∉ pieces pattern.toList := fun isPiece =>
  slashless (mem_of_char_mem_piecesFrom isPiece)

theorem toList_join (folders name : String) :
    (folders ++ "/" ++ name).toList = folders.toList ++ '/' :: name.toList := by
  simp

/-- A pattern without a slash takes out a path as a whole.  Below folders it does so exactly when one of
its wildcards stands for the slash before the last name.  The last name then matches alone if only stars
at the start can stand for a slash, and need not match alone if a star comes behind a character. -/
theorem slashless_pattern_ignores_iff (pattern : String) (slashless : '/' ∉ pattern.toList) :
    (∀ path, isIgnored [pattern] path = true ↔ Covers (pieces pattern.toList) path.toList) ∧
    (∀ folders name, isIgnored [pattern] (folders ++ "/" ++ name) = true ↔
      Bridges (pieces pattern.toList) folders.toList name.toList) ∧
    (StarsAhead (pieces pattern.toList) → ∀ folders name,
      isIgnored [pattern] (folders ++ "/" ++ name) = true → fits pattern name = true) ∧
    (∀ front back c, pieces pattern.toList = front ++ .anyText :: back → .char c ∈ front →
      Usable (pieces pattern.toList) → ∃ folders name,
        isIgnored [pattern] (folders ++ "/" ++ name) = true ∧ fits pattern name = false ∧
        folders ≠ "" ∧ name ≠ "" ∧ '/' ∉ folders.toList ∧ '/' ∉ name.toList) := by
  have covering (path : String) :
      isIgnored [pattern] path = true ↔ Covers (pieces pattern.toList) path.toList :=
    isIgnored_iff_covers slashless
  have bridging (folders name : String) : isIgnored [pattern] (folders ++ "/" ++ name) = true ↔
      Bridges (pieces pattern.toList) folders.toList name.toList := by
    rw [covering, toList_join]
    exact ⟨bridges_of_covers (char_slash_not_mem slashless), covers_of_bridges⟩
  refine ⟨covering, bridging, ?_, ?_⟩
  · intro starsAhead folders name ignored
    rw [covering, toList_join] at ignored
    exact fits_iff.mpr (covers_name_of_starsAhead starsAhead ignored)
  · intro front back c isSplit literal usable
    rw [isSplit] at usable
    obtain ⟨folders, name, bridges, unfit, someFolder, someName, plainFolders, plainName⟩ :=
      exists_hidden literal usable
    refine ⟨.ofList folders, .ofList name, ?_, ?_, ?_, ?_, ?_, ?_⟩
    · rw [bridging, isSplit]
      simpa using bridges
    · rw [← Bool.not_eq_true, fits_iff, isSplit]
      simpa using unfit
    · simpa [← String.toList_inj] using someFolder
    · simpa [← String.toList_inj] using someName
    · simpa using plainFolders
    · simpa using plainName

theorem slashless_pattern_ignores_iff_config :
    '/' ∉ "*.config.js".toList ∧ StarsAhead (pieces "*.config.js".toList) ∧
      isIgnored ["*.config.js"] ("apps/web" ++ "/" ++ "next.config.js") = true ∧
      fits "*.config.js" "next.config.js" = true := by
  have slashless : '/' ∉ "*.config.js".toList := by decide
  have starsAhead : StarsAhead (pieces "*.config.js".toList) := by decide +kernel
  have ignored : isIgnored ["*.config.js"] ("apps/web" ++ "/" ++ "next.config.js") = true := by
    decide +kernel
  have main := slashless_pattern_ignores_iff "*.config.js" slashless
  exact ⟨slashless, starsAhead, ignored, main.2.2.1 starsAhead _ _ ignored⟩

/-- A pattern for the names of package files takes out a file whose own name it does not match, for the
name of the folder. -/
theorem name_pattern_hides_folder :
    "package*.json" ∈ Config.usualIgnore ∧ '/' ∉ "package*.json".toList ∧
      ¬['*', '*'] <:+: "package*.json".toList ∧
      isIgnored ["package*.json"] ("packages" ++ "/" ++ "flow.json") = true ∧
      fits "package*.json" "flow.json" = false := by
  decide +kernel

end Glob

end WorkflowLint
