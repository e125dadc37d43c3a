import WorkflowLint.Yaml.Lexer
import WorkflowLint.Proofs.Faults

/-!
Contract: where reading the tokens of a YAML text can stop.

Every reader leaves the cursor inside the text.  So the scanner stops at a fault of form, at a code escape
that stands in the text and names no character, or at a version number that is too long to read.  Main
statement: `tokens_stop`.
-/

set_option autoImplicit false

namespace WorkflowLint.Yaml

open Sequence (Ends)

/-! ## The cursor -/

namespace Cursor

/-- What is left at the cursor is the rest of the text. -/
def StandsIn (text : List Char) (cursor : Cursor) : Prop := cursor.rest <:+ text

theorem step_rest (cursor : Cursor) : cursor.step.rest = cursor.rest.tail := by
  unfold step
  split
  · next isEnd => rw [isEnd, List.tail_nil]
  · next isNext =>
      rw [isNext, List.tail_cons]
      dsimp only
      split
      · rfl
      · split
        · rfl
        · rfl

private theorem advance_rest (cursor : Cursor) (count : Nat) :
    (cursor.advance count).rest = cursor.rest.drop count := by
  induction count generalizing cursor with
  | zero => rfl
  | succ count inductionHypothesis =>
      rw [advance, inductionHypothesis, step_rest, List.drop_tail]

variable {text : List Char} {cursor : Cursor}

theorem StandsIn.advance (inside : cursor.StandsIn text) (count : Nat) :
    (cursor.advance count).StandsIn text := by
  unfold StandsIn
  rw [advance_rest]
  exact (List.drop_suffix count cursor.rest).trans inside

theorem StandsIn.step (inside : cursor.StandsIn text) : cursor.step.StandsIn text :=
  inside.advance 1

theorem StandsIn.span (inside : cursor.StandsIn text) (among : Char → Bool) :
    (cursor.span among).2.StandsIn text :=
  inside.advance _

theorem StandsIn.skipSpaces (inside : cursor.StandsIn text) : cursor.skipSpaces.StandsIn text :=
  inside.span _

theorem StandsIn.skipComment (inside : cursor.StandsIn text) :
    cursor.skipComment.StandsIn text := by
  unfold Cursor.skipComment
  split
  · exact inside.span _
  · exact inside

theorem StandsIn.lineBreak (inside : cursor.StandsIn text) :
    cursor.lineBreak.2.StandsIn text := by
  unfold Cursor.lineBreak
  split
  · exact inside.advance 2
  · split
    · exact inside.step
    · split
      · exact inside.step
      · exact inside
  · exact inside

theorem rest_eq_of_peek {mark : Char} (shown : cursor.peek = mark) (notEnd : mark ≠ endMark) :
    cursor.rest = mark :: cursor.step.rest := by
  rw [step_rest]
  unfold peek at shown
  cases isRest : cursor.rest with
  | nil =>
      rw [isRest] at shown
      exact absurd shown.symm notEnd
  | cons first others =>
      rw [isRest, List.headD_cons] at shown
      rw [shown, List.tail_cons]

end Cursor

/-! ## Code escapes -/

/-- The number that hexadecimal digits stand for. -/
def codeOf? (digits : List Char) : Option Nat :=
  (digits.mapM (Decimal.digitOfBase? 16)).map fun values =>
    values.foldl (fun code digit => code * 16 + digit) 0

/-- The text holds a code escape of eight digits past the last code point, or a version directive and
a number that is too long for one.  A code that does not fit a machine integer has a fault of its
own. -/
inductive ScanObstacle (text : List Char) : Fault → Prop where
  | outOfRange {digits : List Char} {code : Nat} (written : '\\' :: 'U' :: digits <:+: text)
      (eight : digits.length = 8) (isCode : codeOf? digits = some code)
      (past : 0x10FFFF < code) (fits : code ≤ 0x7FFFFFFF) : ScanObstacle text .codeOutOfRange
  | tooWide {digits : List Char} {code : Nat} (written : '\\' :: 'U' :: digits <:+: text)
      (eight : digits.length = 8) (isCode : codeOf? digits = some code)
      (past : 0x7FFFFFFF < code) : ScanObstacle text .codeTooWide
  | longVersion {digits : List Char} (directive : '%' :: "YAML".toList <:+: text)
      (written : digits <:+: text) (areDigits : ∀ c ∈ digits, c.isDigit)
      (long : Decimal.digitLimit < digits.length) :
      ScanObstacle text (.tooManyDigits digits.length)

/-- The text holds a code escape for one half of a pair, which is no character. -/
inductive HalfEscape (text : List Char) : Prop where
  | written {mark : Char} {digits : List Char} {code : Nat}
      (escape : '\\' :: mark :: digits <:+: text) (isCode : codeOf? digits = some code)
      (half : isHalfPair code)

private theorem escapedCode_eq (digits : List Char) :
    escapedCode digits =
      match codeOf? digits with
      | none => .error .unreadable
      | some code =>
          if 0x7FFFFFFF < code then .error .codeTooWide
          else if 0x10FFFF < code then .error .codeOutOfRange
          else if isHalfPair code then .error (.declined .halfPair)
          else .ok (Char.ofNat code) := by
  unfold escapedCode codeOf?
  cases digits.mapM (Decimal.digitOfBase? 16) with
  | none => rfl
  | some values => rfl

private theorem digitOfBase?_lt {base digit : Nat} {c : Char}
    (isDigit : Decimal.digitOfBase? base c = some digit) : digit < base := by
  unfold Decimal.digitOfBase? at isDigit
  have kept := (Option.filter_eq_some_iff.mp isDigit).2
  exact of_decide_eq_true kept

private theorem foldl_digits_lt {values : List Nat} (each : ∀ value ∈ values, value < 16)
    (code : Nat) :
    values.foldl (fun code digit => code * 16 + digit) code <
      (code + 1) * Nat.pow 16 values.length := by
  induction values generalizing code with
  | nil =>
      show code < (code + 1) * 1
      omega
  | cons value rest inductionHypothesis =>
      have small : value < 16 := each value List.mem_cons_self
      have others := inductionHypothesis (fun other member => each other (.tail _ member))
        (code * 16 + value)
      have grows : (code * 16 + value + 1) * Nat.pow 16 rest.length ≤
          (code + 1) * 16 * Nat.pow 16 rest.length :=
        Nat.mul_le_mul_right _ (by omega)
      have powers : (code + 1) * 16 * Nat.pow 16 rest.length =
          (code + 1) * Nat.pow 16 (rest.length + 1) := by
        rw [Nat.mul_assoc, Nat.mul_comm 16]
        rfl
      rw [List.foldl_cons, List.length_cons]
      omega

/-- As many digits as an escape has bound its code. -/
theorem codeOf?_lt {digits : List Char} {code : Nat} (isCode : codeOf? digits = some code) :
    code < Nat.pow 16 digits.length := by
  obtain ⟨values, areValues, rfl⟩ := Option.map_eq_some_iff.mp isCode
  have related := Sequence.mapM_eq_some_iff.mp areValues
  have small : ∀ value ∈ values, value < 16 := by
    intro value member
    obtain ⟨c, _, isDigit⟩ := Sequence.exists_related_of_mem related member
    exact digitOfBase?_lt isDigit
  have bounded := foldl_digits_lt small 0
  rw [← related.length_eq] at bounded
  omega

/-! ## Faults of the scanner -/

/-- Where the scanner may stop: at a fault of form, at an obstacle of the text, or at half a pair. -/
inductive ScanFault (text : List Char) : Fault → Prop where
  | form : ScanFault text .unreadable
  | obstacle {fault : Fault} (met : ScanObstacle text fault) : ScanFault text fault
  | halfPair (escape : HalfEscape text) : ScanFault text (.declined .halfPair)

/-- A reader stays in the text or ends with a fault of the scanner. -/
def Scans (text : List Char) {α : Type} : Except Fault (α × Cursor) → Prop :=
  Ends (ScanFault text) fun read => read.2.StandsIn text

variable {text : List Char} {cursor : Cursor}

theorem scans_unreadable {α : Type} : Scans text (.error .unreadable : Except Fault (α × Cursor)) :=
  .form

theorem Scans.bind {α β : Type} {first : Except Fault (α × Cursor)} {final : β → Prop}
    {next : α × Cursor → Except Fault β} (firstScans : Scans text first)
    (nextEnds : ∀ value after, after.StandsIn text →
      Ends (ScanFault text) final (next (value, after))) :
    Ends (ScanFault text) final (first >>= next) :=
  Ends.bind firstScans fun read inside => nextEnds read.1 read.2 inside

/-! ## Names, tags and directives -/

/-- The name read stands at the cursor. -/
theorem readName_leads (inside : cursor.StandsIn text) :
    Ends (ScanFault text) (fun read => read.2.StandsIn text ∧ read.1.toList <+: cursor.rest)
      (readName cursor) := by
  unfold readName
  dsimp only
  split
  · exact .form
  · refine ⟨inside.span _, ?_⟩
    rw [String.toList_ofList]
    exact List.takeWhile_prefix _

private theorem readName_scans (inside : cursor.StandsIn text) : Scans text (readName cursor) :=
  (readName_leads inside).mono (fun _ => id) fun _ read => read.1

theorem readAnchor_scans (inside : cursor.StandsIn text) : Scans text (readAnchor cursor) := by
  unfold readAnchor
  refine (readName_scans inside.step).bind fun read place after => ?_
  dsimp only
  split
  · exact after
  · exact scans_unreadable

private theorem escapedBytes_scans (fuel : Nat) (bytes : List UInt8) (inside : cursor.StandsIn text) :
    Scans text (escapedBytes fuel bytes cursor) := by
  induction fuel generalizing bytes cursor with
  | zero => exact inside
  | succ fuel inductionHypothesis =>
      unfold escapedBytes
      split
      · split
        · exact inductionHypothesis _ (inside.advance 3)
        · exact scans_unreadable
      · exact inside

private theorem tagChars_scans (fuel : Nat) (read : List Char) (inside : cursor.StandsIn text) :
    Scans text (tagChars fuel read cursor) := by
  induction fuel generalizing read cursor with
  | zero => exact inside
  | succ fuel inductionHypothesis =>
      unfold tagChars
      split
      · refine (escapedBytes_scans _ [] inside).bind fun bytes place after => ?_
        dsimp only
        split
        · exact inductionHypothesis _ after
        · exact scans_unreadable
      · dsimp only
        split
        · exact inside
        · exact inductionHypothesis _ (inside.span _)

theorem readTagText_scans (inside : cursor.StandsIn text) : Scans text (readTagText cursor) := by
  unfold readTagText
  refine (tagChars_scans _ [] inside).bind fun read place after => ?_
  dsimp only
  split
  · exact scans_unreadable
  · exact after

theorem readHandle_scans (inside : cursor.StandsIn text) : Scans text (readHandle cursor) := by
  unfold readHandle
  split
  · exact scans_unreadable
  · split
    · exact inside.step
    · dsimp only
      split
      · exact (inside.step.span _).step
      · exact scans_unreadable

/-- What follows a tag ends it. -/
theorem closedTag_scans (tag : TagText) (inside : cursor.StandsIn text) :
    Scans text (if isSpaceOrEnd cursor.peek then .ok (tag, cursor) else .error .unreadable) := by
  split
  · exact inside
  · exact scans_unreadable

private theorem readTag_scans (inside : cursor.StandsIn text) : Scans text (readTag cursor) := by
  unfold readTag
  dsimp only
  split
  · refine (readTagText_scans (inside.advance 2)).bind fun suffix place after => ?_
    dsimp only
    split
    · exact closedTag_scans _ after.step
    · exact scans_unreadable
  · split
    · exact closedTag_scans _ inside.step
    · split
      · refine (readHandle_scans inside).bind fun handle place after => ?_
        exact (readTagText_scans after).bind fun suffix last behind => closedTag_scans _ behind
      · exact (readTagText_scans inside.step).bind fun suffix last behind => closedTag_scans _ behind

theorem readVersionPart_scans (directive : '%' :: "YAML".toList <:+: text)
    (inside : cursor.StandsIn text) : Scans text (readVersionPart cursor) := by
  unfold readVersionPart
  dsimp only
  split
  · exact scans_unreadable
  · split
    · next long =>
        have written : cursor.rest.takeWhile Char.isDigit <:+: text :=
          (List.takeWhile_prefix _).isInfix.trans inside.isInfix
        exact .obstacle (.longVersion directive written
          (List.all_eq_true.mp List.all_takeWhile) long)
    · exact inside.span _

/-- Only the number of a version directive is bounded in its length. -/
theorem readDirectiveBody_scans {name : String} (directive : '%' :: name.toList <:+: text)
    (inside : cursor.StandsIn text) : Scans text (readDirectiveBody name cursor) := by
  unfold readDirectiveBody
  split
  · refine (readVersionPart_scans directive inside.skipSpaces).bind fun major place after => ?_
    dsimp only
    split
    · exact scans_unreadable
    · refine (readVersionPart_scans directive after.step).bind fun minor place behind => ?_
      dsimp only
      split
      · exact behind
      · exact scans_unreadable
  · refine (readHandle_scans inside.skipSpaces).bind fun handle place after => ?_
    dsimp only
    split
    · exact scans_unreadable
    · refine (readTagText_scans after.skipSpaces).bind fun expansion place behind => ?_
      dsimp only
      split
      · exact behind
      · exact scans_unreadable
  · exact inside.span _

theorem readLineRest_ends (inside : cursor.StandsIn text) :
    Ends (ScanFault text) (Cursor.StandsIn text) (readLineRest cursor) := by
  unfold readLineRest
  dsimp only
  split
  · exact inside.skipSpaces.skipComment.lineBreak
  · exact .form

private theorem readDirective_scans (atMark : cursor.peek = '%') (inside : cursor.StandsIn text) :
    Scans text (readDirective cursor) := by
  unfold readDirective
  refine (readName_leads inside.step).bind fun read ⟨after, leads⟩ => ?_
  dsimp only
  split
  · have directive : '%' :: read.1.toList <:+: text := by
      have written := ((List.prefix_cons_inj '%').mpr leads).isInfix
      rw [← Cursor.rest_eq_of_peek atMark (by decide)] at written
      exact written.trans inside.isInfix
    refine (readDirectiveBody_scans directive after).bind fun directive place behind => ?_
    exact (readLineRest_ends behind).bind fun last atEnd => atEnd
  · exact scans_unreadable

/-! ## Scalars -/

theorem plainBreaks_standsIn (fuel : Nat) (breaks : List Char) (inside : cursor.StandsIn text) :
    (plainBreaks fuel breaks cursor).2.StandsIn text := by
  induction fuel generalizing breaks cursor with
  | zero => exact inside
  | succ fuel inductionHypothesis =>
      unfold plainBreaks
      split
      · exact inductionHypothesis _ inside.step
      · split
        · dsimp only
          split
          · exact inside.lineBreak
          · exact inductionHypothesis _ inside.lineBreak
        · exact inside

private theorem plainGap_standsIn (inside : cursor.StandsIn text) :
    (plainGap cursor).cursor.StandsIn text := by
  have behind := inside.span (· == ' ')
  unfold plainGap
  dsimp only
  split
  · split
    · exact behind.lineBreak
    · have broken := plainBreaks_standsIn ((cursor.span (· == ' ')).2.lineBreak.2.rest.length + 1) []
        behind.lineBreak
      split
      · next isMarker =>
          rw [isMarker] at broken
          exact broken
      · next isBreaks =>
          rw [isBreaks] at broken
          exact broken
  · exact behind

private theorem plainFrom_standsIn (inFlow : Bool) (indent : Int) (fuel : Nat) (read : List Char)
    {gap : Gap}
    (inside : gap.cursor.StandsIn text) :
    (plainFrom inFlow indent fuel read gap).cursor.StandsIn text := by
  induction fuel generalizing read gap with
  | zero => exact inside
  | succ fuel inductionHypothesis =>
      unfold plainFrom
      split
      · exact inside
      · dsimp only
        split
        · exact inside
        · have behind := plainGap_standsIn
            (inside.advance (plainWord inFlow gap.cursor.rest).length)
          split
          · exact behind
          · exact inductionHypothesis _ behind

theorem quotedBreaks_scans (fuel : Nat) (breaks : List Char) (inside : cursor.StandsIn text) :
    Scans text (quotedBreaks fuel breaks cursor) := by
  induction fuel generalizing breaks cursor with
  | zero => exact inside
  | succ fuel inductionHypothesis =>
      unfold quotedBreaks
      split
      · exact scans_unreadable
      · dsimp only
        split
        · exact inductionHypothesis _ (inside.span _).lineBreak
        · exact inside.span _

private theorem quotedGap_scans (inside : cursor.StandsIn text) : Scans text (quotedGap cursor) := by
  unfold quotedGap
  dsimp only
  split
  · exact scans_unreadable
  · split
    · refine (quotedBreaks_scans _ [] (inside.span _).lineBreak).bind fun breaks place after => ?_
      exact after
    · exact inside.span _

private theorem escapeWidth?_cases {mark : Char} {width : Nat}
    (isWidth : escapeWidth? mark = some width) :
    width ≤ 4 ∨ mark = 'U' ∧ width = 8 := by
  unfold escapeWidth? at isWidth
  split at isWidth
  · cases isWidth
    exact .inl (by decide)
  · cases isWidth
    exact .inl (by decide)
  · cases isWidth
    exact .inr ⟨rfl, rfl⟩
  · cases isWidth

/-- Digits give a character, or half a pair, unless they are eight and their code is too high. -/
theorem escapedCode_ends {mark : Char} {digits : List Char}
    (width : digits.length ≤ 4 ∨ mark = 'U' ∧ digits.length = 8)
    (written : '\\' :: mark :: digits <:+: text) :
    Ends (ScanFault text) (fun _ => True) (escapedCode digits) := by
  rw [escapedCode_eq]
  cases isCode : codeOf? digits with
  | none => exact .form
  | some code =>
      have high (past : 0x10FFFF < code) : mark = 'U' ∧ digits.length = 8 := by
        refine width.resolve_left fun short => ?_
        have bounded : code < 65536 :=
          Nat.lt_of_lt_of_le (codeOf?_lt isCode) (Nat.pow_le_pow_right (by decide) short)
        omega
      dsimp only
      split
      · next wide =>
          obtain ⟨rfl, eight⟩ := high (by omega)
          exact .obstacle (.tooWide written eight isCode wide)
      · split
        · next narrow past =>
            obtain ⟨rfl, eight⟩ := high past
            exact .obstacle (.outOfRange written eight isCode past (by omega))
        · split
          · next half => exact .halfPair ⟨written, isCode, half⟩
          · exact trivial

private theorem escaped_scans (behind : '\\' :: cursor.rest <:+ text) : Scans text
    (escaped cursor) := by
  have inside : cursor.StandsIn text := (List.suffix_cons _ _).trans behind
  unfold escaped
  dsimp only
  split
  · exact inside.step
  · next width _ isWidth =>
      split
      · exact scans_unreadable
      · next enough =>
          have length : (cursor.step.rest.take width).length = width := by
            rw [List.length_take] at enough ⊢
            omega
          have shown : cursor.peek ≠ endMark := by
            intro isEnd
            rw [isEnd] at isWidth
            cases isWidth
          have leads : '\\' :: cursor.peek :: cursor.step.rest.take width <+:
              '\\' :: cursor.rest := by
            rw [Cursor.rest_eq_of_peek rfl shown]
            exact (List.prefix_cons_inj _).mpr
              ((List.prefix_cons_inj _).mpr (List.take_prefix width cursor.step.rest))
          have ends := escapedCode_ends (by rw [length]; exact escapeWidth?_cases isWidth)
            (leads.isInfix.trans behind.isInfix)
          exact ends.bind fun _ _ => inside.step.advance width
  · split
    · exact quotedBreaks_scans _ [] inside.lineBreak
    · exact scans_unreadable

private theorem quotedFrom_scans (quote : Char) (fuel : Nat) (read : List Char)
    (inside : cursor.StandsIn text) : Scans text (quotedFrom quote fuel read cursor) := by
  induction fuel generalizing read cursor with
  | zero => exact scans_unreadable
  | succ fuel inductionHypothesis =>
      unfold quotedFrom
      dsimp only
      split
      · split
        · exact inductionHypothesis _ (inside.advance 2)
        · exact inside.step
      · split
        · next isEscape =>
            have atBackslash : cursor.peek = '\\' := by
              simp only [Bool.and_eq_true, beq_iff_eq] at isEscape
              exact isEscape.1
            have behind : '\\' :: cursor.step.rest <:+ text := by
              rw [← Cursor.rest_eq_of_peek atBackslash (by decide)]
              exact inside
            exact (escaped_scans behind).bind fun added place after => inductionHypothesis _ after
        · split
          · exact (quotedGap_scans inside).bind fun added place after => inductionHypothesis _ after
          · split
            · exact inductionHypothesis _ inside.step
            · exact inductionHypothesis _ (inside.span _)

/-- What follows the header of a block scalar ends it. -/
theorem closedHeader_scans {header : (Chomping × Option Nat) × Cursor}
    (inside : header.2.StandsIn text) :
    Scans text (if header.1.2 == some 0 then .error .unreadable
      else if isSpaceOrEnd header.2.peek then .ok header
      else .error .unreadable) := by
  split
  · exact scans_unreadable
  · split
    · exact inside
    · exact scans_unreadable

private theorem blockHeader_scans (inside : cursor.StandsIn text) : Scans text
    (blockHeader cursor) := by
  unfold blockHeader
  apply closedHeader_scans
  split
  · dsimp only
    split
    · exact inside.step.step
    · exact inside.step
  · split
    · dsimp only
      split
      · exact inside.step.step
      · exact inside.step
    · exact inside

private theorem leadingLines_standsIn (fuel : Nat) (breaks : List Char) (deepest : Nat)
    (inside : cursor.StandsIn text) :
    (leadingLines fuel breaks deepest cursor).2.StandsIn text := by
  induction fuel generalizing breaks deepest cursor with
  | zero => exact inside
  | succ fuel inductionHypothesis =>
      unfold leadingLines
      split
      · exact inductionHypothesis _ _ inside.step
      · split
        · exact inductionHypothesis _ _ inside.lineBreak
        · exact inside

theorem innerLines_standsIn (indent fuel : Nat) (breaks : List Char)
    (inside : cursor.StandsIn text) : (innerLines indent fuel breaks cursor).2.StandsIn text := by
  induction fuel generalizing breaks cursor with
  | zero => exact inside
  | succ fuel inductionHypothesis =>
      have behind : (skipIndent indent cursor).StandsIn text := inside.advance _
      unfold innerLines
      dsimp only
      split
      · exact inductionHypothesis _ behind.lineBreak
      · exact behind

private theorem blockFrom_standsIn (folded : Bool) (indent fuel : Nat) (read breaks : List Char)
    (inside : cursor.StandsIn text) :
    (blockFrom folded indent fuel read breaks cursor).2.StandsIn text := by
  induction fuel generalizing read breaks cursor with
  | zero => exact inside
  | succ fuel inductionHypothesis =>
      have behind := innerLines_standsIn indent
        ((cursor.span (!isBreakOrEnd ·)).2.lineBreak.2.rest.length + 1) []
        (inside.span (!isBreakOrEnd ·)).lineBreak
      unfold blockFrom
      dsimp only
      split
      · exact inductionHypothesis _ _ behind
      · exact behind

theorem blockLines_standsIn (folded : Bool) (indent fuel : Nat) (breaks : List Char)
    (inside : cursor.StandsIn text) :
    (if atBlockLine indent cursor then blockFrom folded indent fuel [] breaks cursor
      else (([], [], breaks), cursor)).2.StandsIn text := by
  split
  · exact blockFrom_standsIn folded indent fuel [] breaks inside
  · exact inside

private theorem blockScalar_scans (indent : Int) (inside : cursor.StandsIn text) :
    Scans text (blockScalar indent cursor) := by
  unfold blockScalar
  refine (blockHeader_scans inside.step).bind fun header place after => ?_
  refine (readLineRest_ends after).bind fun first atFirst => ?_
  obtain ⟨chomping, increment⟩ := header
  cases increment with
  | none =>
      dsimp only
      apply blockLines_standsIn
      exact leadingLines_standsIn _ [] 0 atFirst
  | some digit =>
      dsimp only
      apply blockLines_standsIn
      exact innerLines_standsIn _ _ [] atFirst

/-! ## Tokens -/

namespace Lexer

/-- A step of the lexer stays in the text or ends with a fault of the scanner. -/
def Lexes (text : List Char) : Except Fault Lexer → Prop :=
  Ends (ScanFault text) fun lexer => lexer.cursor.StandsIn text

variable {lexer : Lexer}

theorem lexes_unreadable : Lexes text (.error .unreadable) := .form

theorem lexes_if {condition : Prop} [Decidable condition] {left right : Except Fault Lexer}
    (ifTrue : condition → Lexes text left) (ifFalse : Lexes text right) :
    Lexes text (if condition then left else right) := by
  split
  · next holds => exact ifTrue holds
  · exact ifFalse

theorem dropKey_lexes (inside : lexer.cursor.StandsIn text) : Lexes text lexer.dropKey := by
  unfold dropKey
  split
  · exact inside
  · split
    · exact lexes_unreadable
    · exact inside

theorem noteKey_lexes (inside : lexer.cursor.StandsIn text) : Lexes text lexer.noteKey := by
  unfold noteKey
  split
  · exact (dropKey_lexes inside).bind fun kept after => after
  · exact inside

theorem dropStale_lexes (inside : lexer.cursor.StandsIn text) : Lexes text lexer.dropStale := by
  unfold dropStale
  dsimp only
  split
  · exact lexes_unreadable
  · exact inside

private theorem closeBlocks_cursor (column : Int) (outer : List Int) (lexer : Lexer) :
    (closeBlocks column outer lexer).cursor = lexer.cursor := by
  induction outer generalizing lexer with
  | nil => rfl
  | cons next outer inductionHypothesis =>
      unfold closeBlocks
      split
      · exact inductionHypothesis _
      · rfl

theorem unwind_cursor (lexer : Lexer) (column : Int) :
    (lexer.unwind column).cursor = lexer.cursor := by
  unfold unwind
  split
  · rfl
  · exact closeBlocks_cursor column lexer.outer lexer

theorem openBlock_cursor (lexer : Lexer) (column : Nat) :
    (lexer.openBlock column).1.cursor = lexer.cursor := by
  unfold openBlock
  split
  · rfl
  · rfl

private theorem skipGap_standsIn (fuel : Nat) (inside : lexer.cursor.StandsIn text) :
    (skipGap fuel lexer).cursor.StandsIn text := by
  induction fuel generalizing lexer with
  | zero => exact inside
  | succ fuel inductionHypothesis =>
      have behind := inside.skipSpaces.skipComment
      unfold skipGap
      dsimp only
      split
      · exact behind
      · exact inductionHypothesis behind.lineBreak

theorem markDocument_lexes (inside : lexer.cursor.StandsIn text) :
    Lexes text lexer.markDocument := by
  have unwound : (lexer.unwind (-1)).cursor.StandsIn text := by
    rw [unwind_cursor]
    exact inside
  unfold markDocument
  exact (dropKey_lexes unwound).bind fun kept after => after

theorem openFlow_lexes (token : Token) (inside : lexer.cursor.StandsIn text) :
    Lexes text (lexer.openFlow token) := by
  unfold openFlow
  exact (noteKey_lexes inside).bind fun noted after => after.step

theorem closeFlow_lexes (token : Token) (inside : lexer.cursor.StandsIn text) :
    Lexes text (lexer.closeFlow token) := by
  unfold closeFlow
  exact (dropKey_lexes inside).bind fun kept after => after.step

private theorem flowEntry_lexes (inside : lexer.cursor.StandsIn text) :
    Lexes text lexer.flowEntry := by
  unfold flowEntry
  exact (dropKey_lexes inside).bind fun kept after => after.step

theorem openForMark_lexes (opening : Token) (inside : lexer.cursor.StandsIn text) :
    Lexes text (lexer.openForMark opening) := by
  have opened : (lexer.openBlock lexer.cursor.column).1.cursor.StandsIn text := by
    rw [openBlock_cursor]
    exact inside
  unfold openForMark
  split
  · exact inside
  · split
    · exact lexes_unreadable
    · show Cursor.StandsIn text (Lexer.cursor (if _ then _ else _))
      split
      · exact opened
      · exact opened

private theorem blockEntry_lexes (inside : lexer.cursor.StandsIn text) :
    Lexes text lexer.blockEntry := by
  unfold blockEntry
  refine (openForMark_lexes .blockSequenceStart inside).bind fun opened behind => ?_
  exact (dropKey_lexes behind).bind fun kept after => after.step

private theorem explicitKey_lexes (inside : lexer.cursor.StandsIn text) :
    Lexes text lexer.explicitKey := by
  unfold explicitKey
  refine (openForMark_lexes .blockMappingStart inside).bind fun opened behind => ?_
  exact (dropKey_lexes behind).bind fun kept after => after.step

private theorem mappingValue_lexes (inside : lexer.cursor.StandsIn text) :
    Lexes text lexer.mappingValue := by
  unfold mappingValue
  split
  · next key _ =>
      extract_lets shorter marked
      have kept : (if marked.inFlow then (marked, false) else marked.openBlock key.column).1.cursor
          = lexer.cursor := by
        split
        · rfl
        · exact openBlock_cursor marked key.column
      generalize (if marked.inFlow then (marked, false) else marked.openBlock key.column) = opening
        at kept ⊢
      obtain ⟨opened, isOpen⟩ := opening
      have after : opened.cursor.step.StandsIn text := by
        rw [show opened.cursor = lexer.cursor from kept]
        exact inside.step
      cases isOpen with
      | false => exact after
      | true => exact after
  · refine (openForMark_lexes .blockMappingStart inside).bind fun opened behind => ?_
    exact (dropKey_lexes behind).bind fun kept after => after.step

theorem keyToken_lexes {read : Cursor → Except Fault (Token × Cursor)}
    (scans : ∀ cursor : Cursor, cursor.StandsIn text → Scans text (read cursor))
    (inside : lexer.cursor.StandsIn text) : Lexes text (lexer.keyToken read) := by
  unfold keyToken
  refine (noteKey_lexes inside).bind fun noted behind => ?_
  exact (scans _ behind).bind fun token place after => after

private theorem plainToken_lexes (inside : lexer.cursor.StandsIn text) :
    Lexes text lexer.plainToken := by
  unfold plainToken
  exact (noteKey_lexes inside).bind fun noted behind => plainFrom_standsIn _ _ _ [] behind

private theorem blockToken_lexes (inside : lexer.cursor.StandsIn text) :
    Lexes text lexer.blockToken := by
  unfold blockToken
  refine (dropKey_lexes inside).bind fun kept behind => ?_
  exact (blockScalar_scans _ behind).bind fun read place after => after

private theorem token_lexes (inside : lexer.cursor.StandsIn text) : Lexes text lexer.token := by
  have markedEnds (token : Token) : Lexes text (lexer.markDocument >>= fun marked =>
      pure { marked.push token with cursor := lexer.cursor.advance 3 }) :=
    (markDocument_lexes inside).bind fun marked _ => inside.advance 3
  have directiveEnds (atMark : lexer.cursor.peek = '%') : Lexes text
      (lexer.markDocument >>= fun marked => readDirective lexer.cursor >>= fun read =>
        pure { marked.push (.directive read.1) with cursor := read.2 }) :=
    (markDocument_lexes inside).bind fun marked _ =>
      (readDirective_scans atMark inside).bind fun directive place after => after
  have quotedEnds : ∀ cursor : Cursor, cursor.StandsIn text → Scans text (quotedScalar cursor) :=
    fun cursor atQuote => quotedFrom_scans _ _ [] atQuote.step
  unfold token
  -- One line for each kind of token, in the order in which they are tried.
  refine lexes_if (fun isDirective => directiveEnds ?_) ?_
  · rw [Bool.and_eq_true, beq_iff_eq] at isDirective
    exact isDirective.1
  refine lexes_if (fun _ => markedEnds .documentStart) ?_
  refine lexes_if (fun _ => markedEnds .documentEnd) ?_
  refine lexes_if (fun _ => openFlow_lexes _ inside) ?_
  refine lexes_if (fun _ => openFlow_lexes _ inside) ?_
  refine lexes_if (fun _ => closeFlow_lexes _ inside) ?_
  refine lexes_if (fun _ => closeFlow_lexes _ inside) ?_
  refine lexes_if (fun _ => flowEntry_lexes inside) ?_
  refine lexes_if (fun _ => blockEntry_lexes inside) ?_
  refine lexes_if (fun _ => explicitKey_lexes inside) ?_
  refine lexes_if (fun _ => mappingValue_lexes inside) ?_
  refine lexes_if (fun _ => keyToken_lexes
    (fun _ atMark => (readAnchor_scans atMark).map fun _ => id) inside) ?_
  refine lexes_if (fun _ => keyToken_lexes
    (fun _ atMark => (readAnchor_scans atMark).map fun _ => id) inside) ?_
  refine lexes_if (fun _ => keyToken_lexes
    (fun _ atMark => (readTag_scans atMark).map fun _ => id) inside) ?_
  refine lexes_if (fun _ => blockToken_lexes inside) ?_
  refine lexes_if (fun _ => keyToken_lexes
    (fun _ atMark => (quotedEnds _ atMark).map fun _ => id) inside) ?_
  exact lexes_if (fun _ => plainToken_lexes inside) lexes_unreadable

private theorem next_ends (inside : lexer.cursor.StandsIn text) :
    Ends (ScanFault text) (fun read => read.1.cursor.StandsIn text) lexer.next := by
  unfold next
  refine (dropStale_lexes (skipGap_standsIn _ inside)).bind fun fresh atToken => ?_
  have unwound : (fresh.unwind fresh.cursor.column).cursor.StandsIn text := by
    rw [unwind_cursor]
    exact atToken
  dsimp only
  split
  · exact (markDocument_lexes unwound).bind fun marked after => after
  · exact (token_lexes unwound).bind fun read after => after

private theorem settle_cursor (fuel : Nat) (lexer : Lexer) :
    (settle fuel lexer).cursor = lexer.cursor := by
  induction fuel generalizing lexer with
  | zero => rfl
  | succ fuel inductionHypothesis =>
      unfold settle
      split
      · exact inductionHypothesis _
      · rfl

private theorem run_stops (fuel : Nat) (inside : lexer.cursor.StandsIn text) {fault : Fault}
    (stopped : (run fuel lexer).2 = some fault) : ScanFault text fault := by
  induction fuel generalizing lexer with
  | zero => cases stopped
  | succ fuel inductionHypothesis =>
      have ends := next_ends inside
      unfold run at stopped
      split at stopped
      · next failed =>
          rw [failed] at ends
          cases stopped
          exact ends
      · cases stopped
      · next read wentOn =>
          rw [wentOn] at ends
          -- Keys out of reach are dropped and tokens settled between two tokens; the cursor stays.
          refine inductionHypothesis ?_ stopped
          have fresh := dropStale_lexes ends
          split
          · next isFresh =>
              rw [isFresh] at fresh
              rw [settle_cursor]
              exact fresh
          · exact ends

end Lexer

/-- Reading tokens stops at a fault of form, at an obstacle of the text or at half a pair. -/
theorem tokens_stop {fault : Fault} (stopped : (tokens text).2 = some fault) :
    ScanFault text fault := by
  unfold tokens at stopped
  split at stopped
  · refine Lexer.run_stops _ ?_ stopped
    have atStart : (Cursor.start text).StandsIn text := List.suffix_refl text
    split
    · exact atStart.step
    · exact atStart
  · cases stopped
    exact .form

end WorkflowLint.Yaml
