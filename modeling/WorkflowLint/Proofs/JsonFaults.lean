import WorkflowLint.Json.Reader
import WorkflowLint.Proofs.Faults

/-!
Contract: where reading JSON can stop.

Every reader leaves a rest of the text.  So reading stops where the text is not JSON, at a whole number
that stands in the text with more digits than are converted, or at content that is declined: the escape of
half a surrogate pair, or a bracket inside as many brackets as readers follow.  `Reaches` tells how many
brackets are open where a reader stands.  Main statement: `decode_ends`.
-/

set_option autoImplicit false

namespace WorkflowLint.Json

open Sequence (Ends)

/-- The text holds a run of more digits than are converted. -/
inductive LongInteger (text : List Char) : Nat → Prop where
  | run {digits : List Char} (written : digits <:+: text)
      (areDigits : ∀ c ∈ digits, c.isDigit = true) (long : Decimal.digitLimit < digits.length) :
      LongInteger text digits.length

/-- The character opens a list or a mapping. -/
def IsBracket (c : Char) : Prop := c = '[' ∨ c = '{'

/-- A value or a member that is read from the text starts with this part, inside so many brackets. -/
inductive Reaches (text : List Char) : Nat → List Char → Prop where
  | start : Reaches text 0 (skipSpace text)
  | enter {depth : Nat} {bracket : Char} {rest : List Char}
      (outer : Reaches text depth (bracket :: rest)) (opens : IsBracket bracket) :
      Reaches text (depth + 1) (skipSpace rest)
  | member {depth : Nat} {name rest after more : List Char}
      (atName : Reaches text depth ('"' :: rest))
      (named : readText (rest.length + 1) [] rest = .ok (name, after))
      (colon : skipSpace after = ':' :: more) : Reaches text depth (skipSpace more)
  | next {depth levels fuel : Nat} {value : Value} {part after more : List Char}
      (before : Reaches text depth part) (read : readValue levels fuel part = .ok (value, after))
      (comma : skipSpace after = ',' :: more) : Reaches text depth (skipSpace more)

/-- The text holds what readers decline. -/
inductive Declines (text : List Char) : Declined → Prop where
  | halfPair {digits after : List Char} {code : Nat} (written : '\\' :: 'u' :: digits <:+ text)
      (isCode : readCode? digits = some (code, after)) (half : isHalfPair code = true) :
      Declines text .halfPair
  | nesting {bracket : Char} {rest : List Char} (opens : IsBracket bracket)
      (deep : Reaches text nestingLimit (bracket :: rest)) : Declines text .nesting

/-- A fault of form, of a long integer in the text, or of declined content. -/
inductive ReadFault (text : List Char) : Fault → Prop where
  | malformed (cause : Cause) : ReadFault text (.malformed cause)
  | tooManyDigits {count : Nat} (long : LongInteger text count) :
      ReadFault text (.tooManyDigits count)
  | declined {content : Declined} (declines : Declines text content) :
      ReadFault text (.declined content)

/-- A reader leaves a rest of the text or ends with a fault of the reader. -/
def Reads (text : List Char) {α : Type} : Except Fault (α × List Char) → Prop :=
  Ends (ReadFault text) fun read => read.2 <:+ text

variable {text part : List Char}

theorem reads_malformed {α : Type} (cause : Cause) :
    Reads text (.error (.malformed cause) : Except Fault (α × List Char)) :=
  .malformed cause

theorem Reads.bind {α β : Type} {first : Except Fault (α × List Char)}
    {next : α × List Char → Except Fault (β × List Char)} (firstReads : Reads text first)
    (nextReads : ∀ value rest, first = .ok (value, rest) → rest <:+ text →
      Reads text (next (value, rest))) :
    Reads text (first >>= next) := by
  cases first with
  | ok read => exact nextReads read.1 read.2 rfl firstReads
  | error fault => exact firstReads

/-- The rest behind the first character of a rest. -/
theorem rest_of_cons {c : Char} {rest : List Char} (inside : c :: rest <:+ text) : rest <:+ text :=
  (List.suffix_cons c rest).trans inside

theorem skipSpace_suffix (inside : part <:+ text) : skipSpace part <:+ text :=
  (List.dropWhile_suffix _).trans inside

/-! ## Texts -/

theorem readCode?_suffix {digits after : List Char} {code : Nat}
    (isCode : readCode? digits = some (code, after)) : after <:+ digits := by
  unfold readCode? at isCode
  split at isCode
  · next a b c d rest =>
      simp only [Option.bind_eq_bind, Option.bind_eq_some_iff] at isCode
      obtain ⟨_, _, _, _, _, _, _, _, isRest⟩ := isCode
      cases isRest
      exact ⟨[a, b, c, d], rfl⟩
  · cases isCode

theorem ofCode_reads {code : Nat} (declines : isHalfPair code = true → Declines text .halfPair)
    (inside : part <:+ text) : Reads text ((ofCode code).map (·, part)) := by
  unfold ofCode
  split
  · next half => exact .declined (declines half)
  · exact inside

private theorem readPair_reads {code : Nat}
    (declines : isHalfPair code = true → Declines text .halfPair)
    (inside : part <:+ text) : Reads text (readPair code part) := by
  unfold readPair
  split
  · next digits =>
      split
      · split
        · exact reads_malformed _
        · next isCode =>
            split
            · exact (readCode?_suffix isCode).trans (rest_of_cons (rest_of_cons inside))
            · exact ofCode_reads declines inside
      · exact ofCode_reads declines inside
  · exact ofCode_reads declines inside

theorem readText_reads (fuel : Nat) (read : List Char) (inside : part <:+ text) :
    Reads text (readText fuel read part) := by
  induction fuel generalizing read part with
  | zero => exact reads_malformed _
  | succ fuel inductionHypothesis =>
      cases part with
      | nil => exact reads_malformed _
      | cons c rest =>
          have behind := rest_of_cons inside
          unfold readText
          split
          · exact behind
          · split
            · next isEscape =>
              cases eq_of_beq isEscape
              split
              · exact reads_malformed _
              · split
                · exact reads_malformed _
                · split
                  · exact reads_malformed _
                  · next isCode =>
                      have atCode := (readCode?_suffix isCode).trans (rest_of_cons behind)
                      exact (readPair_reads (.halfPair inside isCode) atCode).bind
                        fun char after _ isAfter => inductionHypothesis _ isAfter
              · split
                · exact inductionHypothesis _ (rest_of_cons behind)
                · exact reads_malformed _
            · split
              · exact reads_malformed _
              · exact inductionHypothesis _ behind

/-! ## Numbers -/

theorem exponentPart_suffix {digits after exponent : List Char}
    (isPart : exponentPart digits = some (exponent, after)) : after <:+ digits := by
  have rest_of_if {sign rest : List Char} (isIf : (if (rest.takeWhile Char.isDigit).isEmpty then none
      else some (sign ++ rest.takeWhile Char.isDigit, rest.dropWhile Char.isDigit)) =
        some (exponent, after)) : after <:+ rest := by
    split at isIf
    · cases isIf
    · cases isIf
      exact List.dropWhile_suffix _
  unfold exponentPart at isPart
  split at isPart
  · next mark rest =>
      split at isPart
      · dsimp only at isPart
        split at isPart
        · exact (rest_of_if isPart).trans ⟨[mark, '-'], rfl⟩
        · exact (rest_of_if isPart).trans ⟨[mark, '+'], rfl⟩
        · exact (rest_of_if isPart).trans (List.suffix_cons mark rest)
      · cases isPart
  · cases isPart

theorem wholePart?_cases {digits after whole : List Char}
    (isPart : wholePart? digits = some (whole, after)) :
    digits = whole ++ after ∧ ∀ c ∈ whole, c.isDigit = true := by
  unfold wholePart? at isPart
  split at isPart
  · cases isPart
    exact ⟨rfl, by simp⟩
  · next c rest _ =>
      split at isPart
      · next isDigit =>
          cases isPart
          refine ⟨by simp [List.takeWhile_append_dropWhile], ?_⟩
          intro d member
          rcases List.mem_cons.mp member with rfl | later
          · exact isDigit
          · exact List.all_eq_true.mp List.all_takeWhile d later
      · cases isPart
  · cases isPart

private theorem fractionPart_suffix (digits : List Char) : (fractionPart digits).2 <:+ digits := by
  unfold fractionPart
  split
  · next c rest =>
      split
      · exact (List.dropWhile_suffix _).trans ⟨['.', c], rfl⟩
      · exact List.suffix_refl _
  · exact List.suffix_refl _

theorem readMagnitude_reads (negative : Bool) (inside : part <:+ text) :
    Reads text (readMagnitude negative part) := by
  unfold readMagnitude
  split
  · exact reads_malformed _
  · next whole afterWhole isWhole =>
      obtain ⟨isPart, areDigits⟩ := wholePart?_cases isWhole
      have behindWhole : afterWhole <:+ part := ⟨whole, isPart.symm⟩
      have behind := (fractionPart_suffix afterWhole).trans behindWhole
      dsimp only
      split
      · split
        · next long =>
            have written : whole <:+: text :=
              List.IsInfix.trans ⟨[], afterWhole, by rw [isPart, List.nil_append]⟩ inside.isInfix
            exact .tooManyDigits (.run written areDigits long)
        · exact behind.trans inside
      · show (Prod.snd _) <:+ text
        split
        · next isExponent => exact (exponentPart_suffix isExponent).trans (behind.trans inside)
        · exact behind.trans inside

theorem afterWord?_suffix {word rest : List Char} (isAfter : afterWord? word part = some rest) :
    rest <:+ part := by
  unfold afterWord? at isAfter
  split at isAfter
  · cases isAfter
    exact List.drop_suffix _ _
  · cases isAfter

private theorem readAtom_reads (inside : part <:+ text) : Reads text (readAtom part) := by
  unfold readAtom
  split
  · exact (afterWord?_suffix (by assumption)).trans inside
  · exact (afterWord?_suffix (by assumption)).trans inside
  · exact (afterWord?_suffix (by assumption)).trans inside
  · exact (afterWord?_suffix (by assumption)).trans inside
  · exact (afterWord?_suffix (by assumption)).trans inside
  · exact (afterWord?_suffix (by assumption)).trans inside
  · split
    · exact readMagnitude_reads true (rest_of_cons inside)
    · exact readMagnitude_reads false inside

/-! ## Values -/

/-- A reader that may follow so many levels more stands at a part of the text. -/
structure StandsAt (text : List Char) (levels : Nat) (part : List Char) : Prop where
  inside : part <:+ text
  reached : ∃ depth, Reaches text depth part ∧ depth + levels = nestingLimit

/-- The readers of values and of their parts, which call each other. -/
structure ReadersStop (text : List Char) (fuel : Nat) : Prop where
  value {levels : Nat} {part : List Char} (stands : StandsAt text levels part) :
    Reads text (readValue levels fuel part)
  items {levels : Nat} {part : List Char} (stands : StandsAt text levels part) :
    Reads text (readItems levels fuel part)
  members {levels : Nat} {part : List Char} (entries : List (Value × Value))
    (stands : StandsAt text levels part) : Reads text (readMembers levels fuel entries part)

theorem suffix_of_skipSpace {c : Char} {rest : List Char} (isNext : skipSpace part = c :: rest)
    (inside : part <:+ text) : rest <:+ text := by
  have visible := skipSpace_suffix inside
  rw [isNext] at visible
  exact rest_of_cons visible

variable {levels fuel : Nat} {bracket : Char} {rest after more : List Char}

/-- Behind a bracket one level less is left, unless none was. -/
theorem StandsAt.deeper (stands : StandsAt text levels (bracket :: rest)) (opens : IsBracket bracket) :
    Ends (ReadFault text) (StandsAt text · (skipSpace rest)) (deeper levels) := by
  obtain ⟨inside, depth, reached, room⟩ := stands
  cases levels with
  | zero =>
      cases room
      exact .declined (.nesting opens reached)
  | succ levels =>
      exact ⟨skipSpace_suffix (rest_of_cons inside), depth + 1, reached.enter opens, by omega⟩

theorem StandsAt.member {name : List Char} (stands : StandsAt text levels ('"' :: rest))
    (named : readText (rest.length + 1) [] rest = .ok (name, after)) (behind : after <:+ text)
    (colon : skipSpace after = ':' :: more) : StandsAt text levels (skipSpace more) := by
  obtain ⟨depth, reached, room⟩ := stands.reached
  exact ⟨skipSpace_suffix (suffix_of_skipSpace colon behind), depth, reached.member named colon, room⟩

theorem StandsAt.next {value : Value} (stands : StandsAt text levels part)
    (read : readValue levels fuel part = .ok (value, after)) (behind : after <:+ text)
    (comma : skipSpace after = ',' :: more) : StandsAt text levels (skipSpace more) := by
  obtain ⟨depth, reached, room⟩ := stands.reached
  exact ⟨skipSpace_suffix (suffix_of_skipSpace comma behind), depth, reached.next read comma, room⟩

private theorem readValue_reads (readers : ReadersStop text fuel)
    (stands : StandsAt text levels part) :
    Reads text (readValue levels (fuel + 1) part) := by
  unfold readValue
  split
  · refine (readText_reads _ [] (rest_of_cons stands.inside)).bind fun read after _ isAfter => ?_
    exact isAfter
  · refine (stands.deeper (.inr rfl)).bind fun levels within => ?_
    dsimp only
    split
    · next isEnd => exact suffix_of_skipSpace isEnd (rest_of_cons stands.inside)
    · exact (readers.members [] within).bind fun entries after _ isAfter => isAfter
  · refine (stands.deeper (.inl rfl)).bind fun levels within => ?_
    dsimp only
    split
    · next isEnd => exact suffix_of_skipSpace isEnd (rest_of_cons stands.inside)
    · exact (readers.items within).bind fun items after _ isAfter => isAfter
  · exact readAtom_reads stands.inside

private theorem readItems_reads (readers : ReadersStop text fuel)
    (stands : StandsAt text levels part) :
    Reads text (readItems levels (fuel + 1) part) := by
  unfold readItems
  refine (readers.value stands).bind fun item after isRead isAfter => ?_
  dsimp only
  split
  · next isEnd => exact suffix_of_skipSpace isEnd isAfter
  · next isComma =>
      exact (readers.items (stands.next isRead isAfter isComma)).bind fun items rest _ isRest => isRest
  · exact reads_malformed _

private theorem readMembers_reads (readers : ReadersStop text fuel) (entries : List (Value × Value))
    (stands : StandsAt text levels part) :
    Reads text (readMembers levels (fuel + 1) entries part) := by
  unfold readMembers
  split
  · refine (readText_reads _ [] (rest_of_cons stands.inside)).bind fun name after isName isAfter => ?_
    dsimp only
    split
    · next isColon =>
        have atValue := stands.member isName isAfter isColon
        refine (readers.value atValue).bind fun value behind isRead isBehind => ?_
        dsimp only
        split
        · next isEnd => exact suffix_of_skipSpace isEnd isBehind
        · next isComma => exact readers.members _ (atValue.next isRead isBehind isComma)
        · exact reads_malformed _
    · exact reads_malformed _
  · exact reads_malformed _

private theorem readersStop (text : List Char) (fuel : Nat) : ReadersStop text fuel := by
  induction fuel with
  | zero =>
      exact ⟨fun _ => reads_malformed _, fun _ => reads_malformed _, fun _ _ => reads_malformed _⟩
  | succ fuel readers =>
      exact ⟨readValue_reads readers, readItems_reads readers, readMembers_reads readers⟩

/-- A text is JSON, or it is not, or it holds a whole number of too many digits or declined content. -/
theorem decode_ends (text : List Char) : Ends (ReadFault text) (fun _ => True) (decode text) := by
  unfold decode
  split
  · exact .malformed _
  · have atValue : StandsAt text nestingLimit (skipSpace text) :=
      ⟨skipSpace_suffix (List.suffix_refl text), 0, .start, Nat.zero_add _⟩
    refine Ends.bind ((readersStop text _).value atValue) fun read _ => ?_
    dsimp only
    split
    · exact trivial
    · exact .malformed _

end WorkflowLint.Json
