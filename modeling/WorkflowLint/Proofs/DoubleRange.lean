import WorkflowLint.Decimal.Binary

/-!
Contract: which integers have a nearest double.

Doubles end at `(2 ^ 53 - 1) · 2 ^ 971`.  Rounding takes an integer past them from half a step above
the last one on, the middle itself included, since the last mantissa is odd.
-/

set_option autoImplicit false

namespace WorkflowLint.Decimal

/-- The least magnitude that is rounded past the largest double. -/
def overflowBound : Nat := Nat.pow 2 1024 - Nat.pow 2 970

/-! ## Rounding -/

theorem roundHalfEven_one (number : Nat) : roundHalfEven number 1 = number := by
  simp [roundHalfEven, Nat.mod_one]

theorem roundHalfEven_bounds (numerator denominator : Nat) :
    numerator / denominator ≤ roundHalfEven numerator denominator ∧
      roundHalfEven numerator denominator ≤ numerator / denominator + 1 := by
  unfold roundHalfEven
  dsimp only
  split <;> omega

/-- An odd quotient is rounded up from the middle on. -/
theorem roundHalfEven_of_odd {numerator denominator : Nat}
    (odd : numerator / denominator % 2 = 1) :
    roundHalfEven numerator denominator = numerator / denominator + 1 ↔
      denominator ≤ 2 * (numerator % denominator) := by
  unfold roundHalfEven
  dsimp only
  split
  next up =>
    simp only [odd, beq_self_eq_true, Bool.and_true, Bool.or_eq_true, decide_eq_true_eq,
      beq_iff_eq] at up
    constructor
    · intro _
      omega
    · intro _
      rfl
  next down =>
    simp only [odd, beq_self_eq_true, Bool.and_true, Bool.or_eq_true, decide_eq_true_eq,
      beq_iff_eq] at down
    omega

theorem binaryExponent_one {number : Nat} (positive : number ≠ 0) :
    binaryExponent number 1 = number.log2 := by
  have fits : 1 * Nat.pow 2 number.log2 ≤ number := by
    rw [Nat.one_mul]
    exact Nat.log2_self_le positive
  have guess : (number.log2 : Int) - (Nat.log2 1 : Nat) = number.log2 := by
    rw [show Nat.log2 1 = 0 by decide]
    omega
  unfold binaryExponent
  simp only [guess, Int.natCast_nonneg, Int.toNat_natCast, fits, ↓reduceIte]

/-! ## The pattern of a rounded integer -/

/-- The bit pattern of `mantissa · 2 ^ unit`, for a mantissa of 53 bits or one more. -/
def packed (mantissa : Nat) (unit : Int) : Nat :=
  let (mantissa, unit) :=
    if mantissa == Nat.pow 2 53 then (Nat.pow 2 52, unit + 1) else (mantissa, unit)
  if 971 < unit then 2047 * Nat.pow 2 52
  else if mantissa < Nat.pow 2 52 then mantissa
  else (unit + 1075).toNat * Nat.pow 2 52 + (mantissa - Nat.pow 2 52)

theorem packed_eq_infinity_iff {mantissa : Nat} {unit : Int} (least : Nat.pow 2 52 ≤ mantissa)
    (most : mantissa ≤ Nat.pow 2 53) :
    packed mantissa unit = 2047 * Nat.pow 2 52 ↔
      971 < unit ∨ unit = 971 ∧ mantissa = Nat.pow 2 53 := by
  have double : Nat.pow 2 53 = 2 * Nat.pow 2 52 := by decide
  have positive : 0 < Nat.pow 2 52 := by decide
  -- Up to the last unit, the biased exponent is at most 2046.
  have inRange : ∀ last : Int, ¬ 971 < last →
      (last + 1075).toNat * Nat.pow 2 52 ≤ 2046 * Nat.pow 2 52 := by
    intro last below
    exact Nat.mul_le_mul_right _ (by omega)
  unfold packed
  generalize Nat.pow 2 52 = step at *
  by_cases carries : mantissa = Nat.pow 2 53
  · simp only [carries, beq_self_eq_true, ↓reduceIte, Nat.lt_irrefl, and_true]
    split
    next past => omega
    next below =>
      have := inRange _ below
      omega
  · simp only [beq_false_of_ne carries, Bool.false_eq_true, ↓reduceIte, carries, and_false, or_false]
    split
    next past => omega
    next below =>
      have := inRange _ below
      rw [if_neg (Nat.not_lt.mpr least)]
      omega

/-- The quotient of an integer by the unit of its mantissa has 53 bits. -/
theorem mantissa_bounds {number shift : Nat} (positive : number ≠ 0)
    (exponent : number.log2 = 52 + shift) :
    Nat.pow 2 52 ≤ number / Nat.pow 2 shift ∧ number / Nat.pow 2 shift < Nat.pow 2 53 := by
  have unitPositive : 0 < Nat.pow 2 shift := Nat.pow_pos (by decide)
  constructor
  · rw [Nat.le_div_iff_mul_le unitPositive, Nat.pow_eq, Nat.pow_eq, ← Nat.pow_add, ← exponent]
    exact Nat.log2_self_le positive
  · rw [Nat.div_lt_iff_lt_mul unitPositive, Nat.pow_eq, Nat.pow_eq, ← Nat.pow_add,
      show 53 + shift = number.log2 + 1 by omega]
    exact Nat.lt_log2_self

private theorem nearestBits_of_large {number shift : Nat} (positive : number ≠ 0)
    (exponent : number.log2 = 52 + shift) :
    nearestBits number 1 = packed (roundHalfEven number (Nat.pow 2 shift)) shift := by
  have unit : max ((number.log2 : Int) - 52) (-1074) = shift := by omega
  simp only [nearestBits, beq_false_of_ne positive, binaryExponent_one positive, unit]
  simp [packed]

private theorem nearestBits_of_small {number shift : Nat} (positive : number ≠ 0)
    (exponent : number.log2 + shift = 52) (notWhole : 0 < shift) :
    nearestBits number 1 = packed (number * Nat.pow 2 shift) (-shift) := by
  have unit : max ((number.log2 : Int) - 52) (-1074) = -shift := by omega
  have negative : ¬ (0 : Int) ≤ -shift := by omega
  simp only [nearestBits, beq_false_of_ne positive, binaryExponent_one positive, unit, negative,
    roundHalfEven_one]
  simp [packed]

/-! ## The bound -/

/-- The bound lies half a unit of the largest doubles below the next power of two. -/
theorem overflowBound_units {shift : Nat} (top : shift = 971) :
    ∃ half, 0 < half ∧ Nat.pow 2 shift = 2 * half ∧
      overflowBound + half = 9007199254740992 * Nat.pow 2 shift := by
  subst top
  exact ⟨Nat.pow 2 970, by decide +kernel, by decide +kernel, by decide +kernel⟩

theorem lt_overflowBound {number : Nat} (small : number.log2 < 1023) : number < overflowBound := by
  have below : ∀ exponent, number.log2 < exponent → Nat.pow 2 exponent ≤ overflowBound →
      number < overflowBound := by
    intro exponent less power
    have step : Nat.pow 2 (number.log2 + 1) ≤ Nat.pow 2 exponent :=
      Nat.pow_le_pow_right (by decide) less
    exact Nat.lt_of_lt_of_le Nat.lt_log2_self (Nat.le_trans step power)
  exact below 1023 small (by decide +kernel)

private theorem overflowBound_le {number : Nat} (positive : number ≠ 0) (large : 1024 ≤ number.log2) :
    overflowBound ≤ number := by
  have above : ∀ exponent, exponent ≤ number.log2 → overflowBound ≤ Nat.pow 2 exponent →
      overflowBound ≤ number := by
    intro exponent less power
    exact Nat.le_trans power ((Nat.le_log2 positive).mp less)
  exact above 1024 large (by decide +kernel)

/-- Among the integers whose quotients have 53 bits, those round up to the next power of two that are
at most half a unit below it. -/
theorem roundHalfEven_eq_carry_iff {number unit half bound : Nat}
    (quotientBelow : number / unit < Nat.pow 2 53) (halfPositive : 0 < half)
    (isDouble : unit = 2 * half) (below : bound + half = 9007199254740992 * unit) :
    roundHalfEven number unit = Nat.pow 2 53 ↔ bound ≤ number := by
  obtain ⟨roundedLeast, roundedMost⟩ := roundHalfEven_bounds number unit
  have divided := Nat.div_add_mod number unit
  have remainderBelow : number % unit < unit := Nat.mod_lt number (by omega)
  have carry : Nat.pow 2 53 = 9007199254740992 := by decide
  by_cases last : number / unit = 9007199254740991
  · have upward := @roundHalfEven_of_odd number unit (by omega)
    rw [last] at upward divided
    rw [carry, upward]
    omega
  · -- A smaller quotient leaves the integer a whole unit below.
    have smaller : number / unit ≤ 9007199254740990 := by omega
    have farBelow := Nat.mul_le_mul_left unit smaller
    omega

/-- The pattern of the nearest double is that of an infinity exactly from the bound on. -/
theorem nearestBits_eq_infinity_iff (number : Nat) :
    nearestBits number 1 = 2047 * Nat.pow 2 52 ↔ overflowBound ≤ number := by
  by_cases positive : number = 0
  · subst positive
    decide +kernel
  rcases Nat.lt_or_ge number.log2 52 with small | large
  · -- Such an integer is a double itself.
    obtain ⟨shift, exponent⟩ : ∃ shift, number.log2 + shift = 52 := ⟨52 - number.log2, by omega⟩
    have least : Nat.pow 2 52 ≤ number * Nat.pow 2 shift := by
      rw [← exponent, Nat.pow_eq, Nat.pow_eq, Nat.pow_add]
      exact Nat.mul_le_mul_right _ (Nat.log2_self_le positive)
    have most : number * Nat.pow 2 shift ≤ Nat.pow 2 53 := by
      rw [show 53 = number.log2 + 1 + shift by omega, Nat.pow_eq, Nat.pow_eq, Nat.pow_add]
      exact Nat.mul_le_mul_right _ (Nat.le_of_lt Nat.lt_log2_self)
    rw [nearestBits_of_small positive exponent (by omega), packed_eq_infinity_iff least most]
    have below := @lt_overflowBound number (by omega)
    omega
  · obtain ⟨shift, exponent⟩ : ∃ shift, number.log2 = 52 + shift := ⟨number.log2 - 52, by omega⟩
    obtain ⟨least, quotientBelow⟩ := mantissa_bounds positive exponent
    obtain ⟨roundedLeast, roundedMost⟩ := roundHalfEven_bounds number (Nat.pow 2 shift)
    rw [nearestBits_of_large positive exponent,
      packed_eq_infinity_iff (Nat.le_trans least roundedLeast) (by omega)]
    rcases Nat.lt_trichotomy shift 971 with lower | top | higher
    · have below := @lt_overflowBound number (by omega)
      omega
    · obtain ⟨half, halfPositive, isDouble, bound⟩ := overflowBound_units top
      rw [roundHalfEven_eq_carry_iff quotientBelow halfPositive isDouble bound]
      omega
    · have above := overflowBound_le positive (by omega)
      omega

/-- An integer has no nearest double exactly when its magnitude reaches the bound. -/
theorem nearestInt?_eq_none_iff (number : Int) :
    nearestInt? number = none ↔ overflowBound ≤ number.natAbs := by
  rw [← nearestBits_eq_infinity_iff, nearestInt?]
  split <;> simp_all

end WorkflowLint.Decimal
