import Mathlib.Data.List.TakeWhile
import Mathlib.Tactic.Tauto
import WorkflowLint.Text.Utf8

/-!
Contract: which bytes are a text.

The reader takes exactly the bytes that the standard encoding gives for some text, and it gives that
text: `decode_eq_ok_iff`.  The argument goes character by character.  `Spells` lists the forms that the
bytes of one character can have, and each form is both what the reader accepts at the front and what the
encoding writes.
-/

set_option autoImplicit false

namespace WorkflowLint.Text.Utf8

/-! ## The bytes of one character -/

/-- The code point for which a first byte and the bytes after it stand. -/
inductive Spells : UInt8 → List UInt8 → Nat → Prop where
  | one {first : UInt8} (low : first.toNat < 0x80) : Spells first [] first.toNat
  | two {first second : UInt8} (lead : 0xC2 ≤ first.toNat ∧ first.toNat < 0xE0)
      (fits : secondFits first second = true) :
      Spells first [second] (first.toNat % 32 * 64 + second.toNat % 64)
  | three {first second third : UInt8} (lead : 0xE0 ≤ first.toNat ∧ first.toNat < 0xF0)
      (fits : secondFits first second = true) (next : isContinuation third = true) :
      Spells first [second, third]
        ((first.toNat % 16 * 64 + second.toNat % 64) * 64 + third.toNat % 64)
  | four {first second third fourth : UInt8} (lead : 0xF0 ≤ first.toNat ∧ first.toNat < 0xF5)
      (fits : secondFits first second = true) (next : isContinuation third = true)
      (last : isContinuation fourth = true) :
      Spells first [second, third, fourth]
        (((first.toNat % 8 * 64 + second.toNat % 64) * 64 + third.toNat % 64) * 64 +
          fourth.toNat % 64)

theorem width?_eq_some_iff (first : UInt8) (width : Nat) :
    width? first = some width ↔
      (width = 1 ∧ first.toNat < 0x80) ∨
      (width = 2 ∧ 0xC2 ≤ first.toNat ∧ first.toNat < 0xE0) ∨
      (width = 3 ∧ 0xE0 ≤ first.toNat ∧ first.toNat < 0xF0) ∨
      (width = 4 ∧ 0xF0 ≤ first.toNat ∧ first.toNat < 0xF5) := by
  unfold width?
  simp only [UInt8.lt_iff_toNat_lt, UInt8.reduceToNat]
  grind

theorem isContinuation_iff (byte : UInt8) :
    isContinuation byte = true ↔ 0x80 ≤ byte.toNat ∧ byte.toNat < 0xC0 := by
  simp [isContinuation, UInt8.lt_iff_toNat_lt, UInt8.le_iff_toNat_le]

theorem secondFits_iff (first second : UInt8) :
    secondFits first second = true ↔
      (0x80 ≤ second.toNat ∧ second.toNat < 0xC0) ∧
      (first.toNat = 0xE0 → 0xA0 ≤ second.toNat) ∧ (first.toNat = 0xED → second.toNat < 0xA0) ∧
      (first.toNat = 0xF0 → 0x90 ≤ second.toNat) ∧ (first.toNat = 0xF4 → second.toNat < 0x90) := by
  unfold secondFits
  simp only [Bool.and_eq_true, Bool.or_eq_true, bne_iff_ne, ne_eq, decide_eq_true_eq,
    isContinuation_iff, UInt8.lt_iff_toNat_lt, UInt8.le_iff_toNat_le, ← UInt8.toNat_inj,
    UInt8.reduceToNat]
  tauto

private theorem goodCount_le_length (first : UInt8) (tail : List UInt8) :
    goodCount first tail ≤ tail.length := by
  cases tail with
  | nil => exact Nat.le_refl 0
  | cons second rest =>
      have shorter := (List.takeWhile_prefix isContinuation (l := rest)).length_le
      rw [goodCount, List.length_cons]
      split
      · omega
      · omega

theorem goodCount_cons_eq_iff (first second : UInt8) (tail : List UInt8) :
    goodCount first (second :: tail) = tail.length + 1 ↔
      secondFits first second = true ∧ ∀ byte ∈ tail, isContinuation byte = true := by
  have whole : (tail.takeWhile isContinuation).length = tail.length ↔
      ∀ byte ∈ tail, isContinuation byte = true := by
    rw [← List.takeWhile_eq_self_iff]
    exact ⟨(List.takeWhile_prefix isContinuation).eq_of_length, congrArg List.length⟩
  rw [← whole, goodCount]
  by_cases fits : secondFits first second = true
  · rw [if_pos fits]
    simp only [fits, true_and]
    omega
  · rw [if_neg fits]
    simp [fits]

section

variable {first : UInt8} {tail : List UInt8} {code : Nat}

private theorem spells_codeOf (wide : width? first = some (tail.length + 1))
    (good : goodCount first tail = tail.length) :
    Spells first tail (codeOf (tail.length + 1) first tail) := by
  rw [width?_eq_some_iff] at wide
  -- The width bounds the number of bytes, so the shapes of the tail are those of `Spells`.
  match tail with
  | [] =>
      apply Spells.one
      simp only [List.length_nil] at wide
      omega
  | [second] =>
      obtain ⟨fits, -⟩ := (goodCount_cons_eq_iff _ _ _).mp good
      refine Spells.two ?_ fits
      simp only [List.length_cons, List.length_nil] at wide
      omega
  | [second, third] =>
      obtain ⟨fits, more⟩ := (goodCount_cons_eq_iff _ _ _).mp good
      refine Spells.three ?_ fits (more third (by simp))
      simp only [List.length_cons, List.length_nil] at wide
      omega
  | [second, third, fourth] =>
      obtain ⟨fits, more⟩ := (goodCount_cons_eq_iff _ _ _).mp good
      refine Spells.four ?_ fits (more third (by simp)) (more fourth (by simp))
      simp only [List.length_cons, List.length_nil] at wide
      omega
  | _ :: _ :: _ :: _ :: _ =>
      simp only [List.length_cons] at wide
      omega

theorem Spells.accepted (spells : Spells first tail code) :
    width? first = some (tail.length + 1) ∧ goodCount first tail = tail.length ∧
      codeOf (tail.length + 1) first tail = code := by
  rw [width?_eq_some_iff]
  cases spells with
  | one low => exact ⟨.inl ⟨rfl, low⟩, rfl, rfl⟩
  | two lead fits =>
      refine ⟨.inr (.inl ⟨rfl, lead⟩), ?_, rfl⟩
      exact (goodCount_cons_eq_iff _ _ _).mpr ⟨fits, by simp⟩
  | three lead fits next =>
      refine ⟨.inr (.inr (.inl ⟨rfl, lead⟩)), ?_, rfl⟩
      exact (goodCount_cons_eq_iff _ _ _).mpr ⟨fits, by simp [next]⟩
  | four lead fits next last =>
      refine ⟨.inr (.inr (.inr ⟨rfl, lead⟩)), ?_, rfl⟩
      exact (goodCount_cons_eq_iff _ _ _).mpr ⟨fits, by simp [next, last]⟩

theorem Spells.isValidChar (spells : Spells first tail code) : code.isValidChar := by
  unfold Nat.isValidChar
  cases spells with
  | one low => omega
  | two lead fits =>
      rw [secondFits_iff] at fits
      omega
  | three lead fits next =>
      rw [secondFits_iff] at fits
      omega
  | four lead fits next last =>
      rw [secondFits_iff] at fits
      omega

theorem Spells.utf8EncodeChar_ofNat (spells : Spells first tail code) :
    String.utf8EncodeChar (Char.ofNat code) = first :: tail := by
  have isCode : (Char.ofNat code).val.toNat = code := by
    rw [Char.ofNat, dif_pos spells.isValidChar]
    rfl
  unfold String.utf8EncodeChar
  rw [isCode]
  dsimp only
  cases spells with
  | one low =>
      rw [if_pos (by omega)]
      simp
  | two lead fits =>
      rw [secondFits_iff] at fits
      rw [if_neg (by omega), if_pos (by omega)]
      simp only [← UInt8.toNat_inj, UInt8.toNat_ofNat', List.cons.injEq, and_true]
      omega
  | three lead fits next =>
      rw [secondFits_iff] at fits
      rw [isContinuation_iff] at next
      rw [if_neg (by omega), if_neg (by omega), if_pos (by omega)]
      simp only [← UInt8.toNat_inj, UInt8.toNat_ofNat', List.cons.injEq, and_true]
      omega
  | four lead fits next last =>
      rw [secondFits_iff] at fits
      rw [isContinuation_iff] at next last
      rw [if_neg (by omega), if_neg (by omega), if_neg (by omega)]
      simp only [← UInt8.toNat_inj, UInt8.toNat_ofNat', List.cons.injEq, and_true]
      omega

end

theorem exists_byte (code : Nat) (small : code < 256) : ∃ byte : UInt8, byte.toNat = code := by
  refine ⟨UInt8.ofNat code, ?_⟩
  rw [UInt8.toNat_ofNat']
  omega

private theorem exists_spells (c : Char) : ∃ first tail, Spells first tail c.toNat := by
  have valid : c.toNat < 0xD800 ∨ 0xDFFF < c.toNat ∧ c.toNat < 0x110000 := c.valid
  generalize c.toNat = code at valid
  by_cases one : code < 0x80
  · obtain ⟨first, rfl⟩ := exists_byte code (by omega)
    exact ⟨first, [], .one one⟩
  obtain ⟨last, isLast⟩ := exists_byte (code % 64 + 0x80) (by omega)
  by_cases two : code < 0x800
  · obtain ⟨first, isFirst⟩ := exists_byte (code / 64 + 0xC0) (by omega)
    have isCode : code = first.toNat % 32 * 64 + last.toNat % 64 := by omega
    rw [isCode]
    refine ⟨first, [last], .two (by omega) ?_⟩
    rw [secondFits_iff]
    omega
  have continues : isContinuation last = true := by
    rw [isContinuation_iff]
    omega
  obtain ⟨middle, isMiddle⟩ := exists_byte (code / 64 % 64 + 0x80) (by omega)
  by_cases three : code < 0x10000
  · obtain ⟨first, isFirst⟩ := exists_byte (code / 4096 + 0xE0) (by omega)
    have isCode : code = (first.toNat % 16 * 64 + middle.toNat % 64) * 64 + last.toNat % 64 := by
      omega
    rw [isCode]
    refine ⟨first, [middle, last], .three (by omega) ?_ continues⟩
    rw [secondFits_iff]
    omega
  · obtain ⟨first, isFirst⟩ := exists_byte (code / 262144 + 0xF0) (by omega)
    obtain ⟨second, isSecond⟩ := exists_byte (code / 4096 % 64 + 0x80) (by omega)
    have isCode : code =
        ((first.toNat % 8 * 64 + second.toNat % 64) * 64 + middle.toNat % 64) * 64 +
          last.toNat % 64 := by
      omega
    rw [isCode]
    refine ⟨first, [second, middle, last], .four (by omega) ?_ ?_ continues⟩
    · rw [secondFits_iff]
      omega
    · rw [isContinuation_iff]
      omega

/-! ## One step of the reader -/

theorem decodeFrom_of_spells {first : UInt8} {tail rest : List UInt8} {code : Nat}
    (spells : Spells first tail code) (position : Nat) :
    decodeFrom position (first :: (tail ++ rest)) =
      (decodeFrom (position + (tail.length + 1)) rest).map (Char.ofNat code :: ·) := by
  obtain ⟨wide, good, isCode⟩ := spells.accepted
  rw [decodeFrom]
  simp only [wide, Nat.add_sub_cancel, List.take_left', List.drop_left', good, beq_self_eq_true,
    if_true, isCode]
  cases decodeFrom (position + (tail.length + 1)) rest with
  | ok chars => rfl
  | error fault => rfl

theorem exists_spells_of_decodeFrom {first : UInt8} {rest : List UInt8} {position : Nat}
    {text : List Char} (decoded : decodeFrom position (first :: rest) = .ok text) :
    ∃ tail after code chars, rest = tail ++ after ∧ Spells first tail code ∧
      decodeFrom (position + (tail.length + 1)) after = .ok chars ∧
      text = Char.ofNat code :: chars := by
  rw [decodeFrom] at decoded
  cases wide : width? first with
  | none =>
      rw [wide] at decoded
      cases decoded
  | some width =>
      have positive : 0 < width := by
        rw [width?_eq_some_iff] at wide
        omega
      simp only [wide, beq_iff_eq] at decoded
      by_cases good : goodCount first (rest.take (width - 1)) = width - 1
      · rw [if_pos good] at decoded
        have long := goodCount_le_length first (rest.take (width - 1))
        have short := List.length_take_le (width - 1) rest
        have filled : (rest.take (width - 1)).length + 1 = width := by omega
        have spells := @spells_codeOf first (rest.take (width - 1)) (by rw [filled, wide]) (by omega)
        cases later : decodeFrom (position + width) (rest.drop (width - 1)) with
        | error fault =>
            rw [later] at decoded
            cases decoded
        | ok chars =>
            rw [later] at decoded
            cases decoded
            rw [filled] at spells
            refine ⟨_, _, _, chars, (List.take_append_drop (width - 1) rest).symm, spells, ?_, rfl⟩
            rw [filled, later]
      · rw [if_neg good] at decoded
        split at decoded
        · cases decoded
        · cases decoded

/-! ## Whole texts -/

theorem decodeFrom_flatMap (text : List Char) (position : Nat) :
    decodeFrom position (text.flatMap String.utf8EncodeChar) = .ok text := by
  induction text generalizing position with
  | nil => rw [List.flatMap_nil, decodeFrom]
  | cons c rest inductionHypothesis =>
      obtain ⟨first, tail, spells⟩ := exists_spells c
      have encoded := spells.utf8EncodeChar_ofNat
      rw [Char.ofNat_toNat] at encoded
      rw [List.flatMap_cons, encoded, List.cons_append, decodeFrom_of_spells spells,
        inductionHypothesis, Char.ofNat_toNat]
      rfl

private theorem eq_flatMap_of_decodeFrom {bytes : List UInt8} {position : Nat} {text : List Char}
    (decoded : decodeFrom position bytes = .ok text) :
    bytes = text.flatMap String.utf8EncodeChar := by
  induction text generalizing bytes position with
  | nil =>
      cases bytes with
      | nil => rfl
      | cons first rest =>
          obtain ⟨_, _, _, _, _, _, _, isText⟩ := exists_spells_of_decodeFrom decoded
          cases isText
  | cons c text inductionHypothesis =>
      cases bytes with
      | nil =>
          rw [decodeFrom] at decoded
          cases decoded
      | cons first rest =>
          obtain ⟨tail, after, code, chars, rfl, spells, later, isText⟩ :=
            exists_spells_of_decodeFrom decoded
          cases isText
          rw [List.flatMap_cons, spells.utf8EncodeChar_ofNat, ← inductionHypothesis later,
            List.cons_append]

/-- Bytes are read as a text exactly when they are what the standard encoding gives for it. -/
theorem decode_eq_ok_iff (bytes : List UInt8) (text : List Char) :
    decode bytes = .ok text ↔ bytes = text.flatMap String.utf8EncodeChar := by
  constructor
  · exact eq_flatMap_of_decodeFrom
  · rintro rfl
    exact decodeFrom_flatMap text 0

end WorkflowLint.Text.Utf8
