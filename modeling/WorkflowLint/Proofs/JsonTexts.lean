import WorkflowLint.Json.Reader
import WorkflowLint.Json.Writer

/-!
Contract: texts in JSON quotes read back as they were.

A character is written as itself, by a short escape, by one code, or by the two codes of a surrogate
pair.  `readText_escapedChar` says that the reader takes each of these as one step that yields the
character, whatever follows inside the quotes; the whole text is then an induction on its characters.
-/

set_option autoImplicit false

namespace WorkflowLint

namespace Text

/-- The last digit of a number is its remainder. -/
theorem hex_succ {width : Nat} (wide : 0 < width) (number : Nat) :
    hex (width + 1) number = hex width (number / 16) ++ [(number % 16).digitChar] := by
  unfold hex
  rcases Nat.lt_or_ge number 16 with small | large
  · have zeros : List.replicate (width - 1) '0' ++ ['0'] = List.replicate width '0' := by
      rw [← List.replicate_succ', Nat.sub_add_cancel wide]
    rw [Nat.toDigits_of_lt_base small, Nat.div_eq_of_lt small, Nat.mod_eq_of_lt small,
      Nat.toDigits_zero]
    simp only [List.length_singleton, Nat.add_sub_cancel, zeros]
  · rw [Nat.toDigits_of_base_le (by decide) large]
    simp only [List.length_append, List.length_singleton, Nat.add_sub_add_right, List.append_assoc]

private theorem hex_one {number : Nat} (small : number < 16) : hex 1 number = [number.digitChar] := by
  rw [hex, Nat.toDigits_of_lt_base small]
  rfl

/-- Four digits spell every code of sixteen bits. -/
theorem hex_four {code : Nat} (small : code < 0x10000) :
    hex 4 code = [(code / 16 / 16 / 16).digitChar, (code / 16 / 16 % 16).digitChar,
      (code / 16 % 16).digitChar, (code % 16).digitChar] := by
  rw [hex_succ (by decide), hex_succ (by decide), hex_succ (by decide), hex_one (by omega)]
  rfl

end Text

namespace Json

/-! ## Codes -/

theorem digitOfBase?_digitChar : ∀ digit < 16,
    Decimal.digitOfBase? 16 digit.digitChar = some digit := by
  decide

theorem readCode?_hex {code : Nat} (small : code < 0x10000) (rest : List Char) :
    readCode? (Text.hex 4 code ++ rest) = some (code, rest) := by
  rw [Text.hex_four small]
  simp only [List.cons_append, List.nil_append, readCode?,
    digitOfBase?_digitChar _ (show code / 16 / 16 / 16 < 16 by omega),
    digitOfBase?_digitChar _ (Nat.mod_lt _ (show 0 < 16 by decide)), Option.bind_eq_bind,
    Option.bind_some, Option.pure_def, Option.some.injEq, Prod.mk.injEq, and_true]
  omega

theorem length_hex_four {code : Nat} (small : code < 0x10000) : (Text.hex 4 code).length = 4 := by
  rw [Text.hex_four small]
  rfl

/-! ## Characters -/

section Characters

variable {fuel : Nat} {read rest : List Char}

/-- A code is read when a character follows it, and with it the code of a second half. -/
theorem readText_code {code : Nat} (small : code < 0x10000) (follows : rest ≠ []) :
    readText (fuel + 1) read (codeEscape code ++ rest) =
      (readPair code rest >>= fun (char, after) => readText fuel (char :: read) after) := by
  have longer : ¬ (Text.hex 4 code ++ rest).length ≤ 4 := by
    have := List.length_pos_iff.mpr follows
    rw [List.length_append, length_hex_four small]
    omega
  rw [codeEscape, List.cons_append, List.cons_append, readText, if_neg (by decide),
    if_pos (by decide)]
  simp only [if_neg longer, readCode?_hex small]

/-- A code that is no half of a pair stands for itself. -/
theorem readPair_single {code : Nat} (single : isHalfPair code = false) (rest : List Char) :
    readPair code rest = .ok (Char.ofNat code, rest) := by
  have notHigh : isHighSurrogate code = false := by
    simp only [isHalfPair, isHighSurrogate, Bool.and_eq_false_iff, decide_eq_false_iff_not] at single ⊢
    omega
  have isChar : (ofCode code).map (·, rest) = .ok (Char.ofNat code, rest) := by
    rw [ofCode, if_neg (by simp [single])]
    rfl
  unfold readPair
  split
  · rw [if_neg (by simp [notHigh]), isChar]
  · exact isChar

/-- The two halves of a pair stand for one character. -/
theorem readPair_halves {high low : Nat} (isHigh : isHighSurrogate high = true)
    (isLow : isLowSurrogate low = true) (follows : rest ≠ []) :
    readPair high (codeEscape low ++ rest) =
      .ok (Char.ofNat (0x10000 + (high - 0xD800) * 0x400 + (low - 0xDC00)), rest) := by
  have small : low < 0x10000 := by
    simp only [isLowSurrogate, Bool.and_eq_true, decide_eq_true_eq] at isLow
    omega
  have longer : 4 < (Text.hex 4 low ++ rest).length := by
    have := List.length_pos_iff.mpr follows
    rw [List.length_append, length_hex_four small]
    omega
  rw [codeEscape, List.cons_append, List.cons_append, readPair]
  simp only [isHigh, longer, decide_true, Bool.and_self, if_true, readCode?_hex small, isLow]

/-- No character is half of a pair. -/
theorem isHalfPair_toNat (c : Char) : isHalfPair c.toNat = false := by
  have valid : c.toNat < 0xD800 ∨ (0xDFFF < c.toNat ∧ c.toNat < 0x110000) := c.valid
  simp only [isHalfPair, Bool.and_eq_false_iff, decide_eq_false_iff_not]
  omega

/-- A character past sixteen bits reads back from its two halves. -/
theorem readText_pair {c : Char} (wide : 0x10000 ≤ c.toNat) (follows : rest ≠ []) :
    readText (fuel + 1) read
        (codeEscape (0xD800 + (c.toNat - 0x10000) / 0x400) ++
          codeEscape (0xDC00 + (c.toNat - 0x10000) % 0x400) ++ rest) =
      readText fuel (c :: read) rest := by
  obtain ⟨offset, isOffset⟩ : ∃ offset, c.toNat - 0x10000 = offset := ⟨_, rfl⟩
  have bound : offset < 0x100000 := by
    have valid : c.toNat < 0xD800 ∨ (0xDFFF < c.toNat ∧ c.toNat < 0x110000) := c.valid
    omega
  have whole : c.toNat = 0x10000 + offset / 0x400 * 0x400 + offset % 0x400 := by
    omega
  have isHigh : isHighSurrogate (0xD800 + offset / 0x400) = true := by
    simp only [isHighSurrogate, Bool.and_eq_true, decide_eq_true_eq]
    omega
  have isLow : isLowSurrogate (0xDC00 + offset % 0x400) = true := by
    simp only [isLowSurrogate, Bool.and_eq_true, decide_eq_true_eq]
    omega
  rw [isOffset, List.append_assoc, readText_code (by omega) (by simp [codeEscape]),
    readPair_halves isHigh isLow follows, Nat.add_sub_cancel_left, Nat.add_sub_cancel_left,
    ← whole, Char.ofNat_toNat]
  rfl

/-- A character with a short escape. -/
theorem readText_short {mark c : Char} (isEscape : escapeChar? mark = some c) (notCode : mark ≠ 'u') :
    readText (fuel + 1) read (['\\', mark] ++ rest) = readText fuel (c :: read) rest := by
  rw [List.cons_append, List.cons_append, List.nil_append, readText, if_neg (by decide),
    if_pos (by decide)]
  · simp only [isEscape]
  · exact notCode

/-- A character that stands for itself. -/
theorem readText_plain {c : Char} (notQuote : ¬ (c == '"') = true) (notEscape : ¬ (c == '\\') = true)
    (visible : 0x20 ≤ c.toNat) :
    readText (fuel + 1) read ([c] ++ rest) = readText fuel (c :: read) rest := by
  rw [List.cons_append, List.nil_append, readText.eq_def]
  simp only [if_neg notQuote, if_neg notEscape, if_neg (Nat.not_lt.mpr visible)]

/-- The reader takes a written character back in one step. -/
theorem readText_escapedChar (c : Char) (follows : rest ≠ []) :
    readText (fuel + 1) read (escapedChar c ++ rest) = readText fuel (c :: read) rest := by
  have coded {code : Nat} (isCode : (c.toNat == code) = true) : c = Char.ofNat code := by
    rw [← eq_of_beq isCode, Char.ofNat_toNat]
  unfold escapedChar
  dsimp only
  -- One case for each way to write a character, in the order of the writer.
  split
  next isQuote => exact readText_short (by rw [eq_of_beq isQuote]; rfl) (by decide)
  next notQuote =>
  split
  next isSlash => exact readText_short (by rw [eq_of_beq isSlash]; rfl) (by decide)
  next notSlash =>
  split
  next isFeed => exact readText_short (by rw [eq_of_beq isFeed]; rfl) (by decide)
  split
  next isReturn => exact readText_short (by rw [eq_of_beq isReturn]; rfl) (by decide)
  split
  next isTab => exact readText_short (by rw [eq_of_beq isTab]; rfl) (by decide)
  split
  next isForm => exact readText_short (by rw [coded isForm]; rfl) (by decide)
  split
  next isBack => exact readText_short (by rw [coded isBack]; rfl) (by decide)
  split
  next visible =>
    exact readText_plain notQuote notSlash (of_decide_eq_true (Bool.and_eq_true_iff.mp visible).1)
  split
  next small =>
    rw [readText_code small follows, readPair_single (isHalfPair_toNat c), Char.ofNat_toNat]
    rfl
  next wide => exact readText_pair (Nat.not_lt.mp wide) follows

end Characters

/-! ## Texts -/

/-- Something is written for every character, as the reader takes a step for it. -/
theorem escapedChar_ne_nil (c : Char) : escapedChar c ≠ [] := by
  intro isNil
  have step := @readText_escapedChar 0 [] ['"'] c (List.cons_ne_nil _ _)
  rw [isNil] at step
  cases step

/-- The reader takes a written text back up to its closing quote. -/
theorem readText_escaped (text : List Char) {fuel : Nat} (enough : text.length < fuel)
    (read rest : List Char) :
    readText fuel read (text.flatMap escapedChar ++ '"' :: rest) =
      .ok (read.reverse ++ text, rest) := by
  induction text generalizing fuel read with
  | nil =>
      obtain ⟨more, rfl⟩ := Nat.exists_eq_add_one_of_ne_zero (Nat.ne_of_gt enough)
      rw [List.flatMap_nil, List.nil_append, readText.eq_def]
      simp only [beq_self_eq_true, if_true, List.append_nil]
  | cons c others inductionHypothesis =>
      obtain ⟨more, rfl⟩ := Nat.exists_eq_add_one_of_ne_zero (Nat.ne_zero_of_lt enough)
      rw [List.flatMap_cons, List.append_assoc, readText_escapedChar c (by simp),
        inductionHypothesis (Nat.lt_of_succ_lt_succ enough)]
      simp

private theorem length_le_flatMap_escapedChar (text : List Char) :
    text.length ≤ (text.flatMap escapedChar).length := by
  induction text with
  | nil => exact Nat.le_refl 0
  | cons c others inductionHypothesis =>
      have := List.length_pos_iff.mpr (escapedChar_ne_nil c)
      rw [List.flatMap_cons, List.length_append, List.length_cons]
      omega

/-- A text after its opening quote, read with the fuel that readers of values give. -/
theorem readText_quoted (text rest : List Char) {after : List Char}
    (isAfter : after = text.flatMap escapedChar ++ '"' :: rest) :
    readText (after.length + 1) [] after = .ok (text, rest) := by
  have shorter := length_le_flatMap_escapedChar text
  subst isAfter
  apply readText_escaped
  rw [List.length_append]
  omega

end Json

end WorkflowLint
