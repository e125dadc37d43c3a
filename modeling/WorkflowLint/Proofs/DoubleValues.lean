import WorkflowLint.Value.Basic
import Mathlib

/-!
Contract: when doubles and integers are equal numbers.

Every finite double is a whole number of times the least positive double, and so is every integer.  Two
doubles are equal exactly when they are the same multiple, and a double equals an integer exactly when
both are the same multiple.  Equality of numbers across their types is thus equality of magnitudes.
-/

set_option autoImplicit false

namespace WorkflowLint.Decimal

open Float.Model (UnpackedFloat Format)
open Float.Model.UnpackedFloat (Sign)

/-- What a number is, whatever its type: no number, past all numbers, or so many times the least
positive double. -/
inductive Magnitude where
  | notANumber
  | infinite (negative : Bool)
  | multiple (count : Int)

/-- How many times the least positive double is in `2 ^ exponent`. -/
def units (exponent : Int) : Nat := Nat.pow 2 (exponent + 1074).toNat

/-- The magnitude of an integer. -/
def Magnitude.ofInt (number : Int) : Magnitude := .multiple (number * units 0)

/-- The magnitude of a double. -/
def Binary.magnitude : Binary → Magnitude
  | .notANumber => .notANumber
  | .infinite negative => .infinite negative
  | .finite negative mantissa exponent =>
      .multiple ((if negative then -(mantissa : Int) else mantissa) * units exponent)

/-- The mantissa has 53 bits, or the exponent is the least. -/
structure Binary.IsCanonical (mantissa : Nat) (exponent : Int) : Prop where
  least : -1074 ≤ exponent
  below : mantissa < 2 * Nat.pow 2 52
  full : exponent = -1074 ∨ Nat.pow 2 52 ≤ mantissa

/-- The fields of a bit pattern are canonical. -/
theorem Binary.isCanonical_of_ofBits {bits : Nat} {negative : Bool} {mantissa : Nat} {exponent : Int}
    (isFinite : ofBits bits = .finite negative mantissa exponent) :
    IsCanonical mantissa exponent := by
  have fractionBelow : bits % Nat.pow 2 52 < Nat.pow 2 52 := Nat.mod_lt _ (by decide)
  unfold ofBits at isFinite
  simp only [beq_iff_eq] at isFinite
  split at isFinite
  · split at isFinite <;> cases isFinite
  · split at isFinite
    · cases isFinite
      exact ⟨by omega, by omega, .inl rfl⟩
    · cases isFinite
      exact ⟨by omega, by omega, .inr (by omega)⟩

/-! ## Multiples of the least double -/

section Units

theorem units_pos (exponent : Int) : 0 < units exponent := Nat.pow_pos (by decide)

theorem units_ne_zero (exponent : Int) : (units exponent : Int) ≠ 0 :=
  Int.natCast_ne_zero.mpr (units_pos exponent).ne'

theorem units_add {exponent : Int} (least : -1074 ≤ exponent) (shift : Nat) :
    units (exponent + shift) = Nat.pow 2 shift * units exponent := by
  have places : (exponent + shift + 1074).toNat = shift + (exponent + 1074).toNat := by omega
  rw [units, units, places]
  exact Nat.pow_add 2 shift _

variable {left right : Nat} {leftExponent rightExponent : Int}

/-- With a smaller exponent a canonical double is a smaller multiple. -/
theorem mul_units_lt (leftCanonical : Binary.IsCanonical left leftExponent)
    (rightCanonical : Binary.IsCanonical right rightExponent)
    (smaller : leftExponent < rightExponent) :
    left * units leftExponent < right * units rightExponent := by
  have least := leftCanonical.least
  obtain ⟨shift, isShift⟩ : ∃ shift : Nat, rightExponent = leftExponent + (shift + 1 : Nat) :=
    ⟨(rightExponent - leftExponent).toNat - 1, by omega⟩
  have belowTwice : left < 2 * right := by
    have below := leftCanonical.below
    have full := rightCanonical.full
    omega
  have belowShifted : left < right * Nat.pow 2 (shift + 1) := by
    calc left < 2 * right * 1 := by omega
      _ ≤ 2 * right * Nat.pow 2 shift := Nat.mul_le_mul_left _ (Nat.pow_pos (by decide))
      _ = right * Nat.pow 2 (shift + 1) := by simp only [Nat.pow_eq, pow_succ]; ring
  rw [isShift, units_add least, ← Nat.mul_assoc]
  exact Nat.mul_lt_mul_of_pos_right belowShifted (units_pos leftExponent)

/-- A canonical double is given by its multiple. -/
theorem mul_units_inj (leftCanonical : Binary.IsCanonical left leftExponent)
    (rightCanonical : Binary.IsCanonical right rightExponent) :
    left * units leftExponent = right * units rightExponent ↔
      leftExponent = rightExponent ∧ left = right := by
  constructor
  · intro equal
    rcases Int.lt_trichotomy leftExponent rightExponent with smaller | same | greater
    · exact absurd equal (mul_units_lt leftCanonical rightCanonical smaller).ne
    · subst same
      exact ⟨rfl, Nat.eq_of_mul_eq_mul_right (units_pos leftExponent) equal⟩
    · exact absurd equal (mul_units_lt rightCanonical leftCanonical greater).ne'
  · rintro ⟨rfl, rfl⟩
    rfl

end Units

/-- A double is compared as equal to an integer exactly when it has its magnitude. -/
theorem Binary.compareInt_eq_iff {bits : Nat} {number : Int} :
    (ofBits bits).compareInt number = some .eq ↔ (ofBits bits).magnitude = .ofInt number := by
  cases kind : ofBits bits with
  | notANumber =>
      constructor
      · intro impossible
        cases impossible
      · intro impossible
        cases impossible
  | infinite negative =>
      constructor
      · intro impossible
        cases negative <;> cases impossible
      · intro impossible
        cases impossible
  | finite negative mantissa exponent =>
      have least := (isCanonical_of_ofBits kind).least
      rw [magnitude, Magnitude.ofInt, Magnitude.multiple.injEq, compareInt]
      generalize (if negative then -(mantissa : Int) else mantissa) = signed
      -- Whichever exponent is greater, its units are those of the other times a power of two.
      split
      next whole =>
        have shifted : units exponent = Nat.pow 2 exponent.toNat * units 0 := by
          rw [← units_add (by omega), Int.zero_add, Int.toNat_of_nonneg whole]
        rw [Option.some.injEq, Int.compare_eq_eq, shifted, Nat.cast_mul, ← mul_assoc]
        exact (mul_left_inj' (units_ne_zero 0)).symm
      next fraction =>
        have shifted : units 0 = Nat.pow 2 (-exponent).toNat * units exponent := by
          rw [← units_add least, Int.toNat_of_nonneg (by omega), Int.add_right_neg]
        rw [Option.some.injEq, Int.compare_eq_eq, shifted, Nat.cast_mul, ← mul_assoc]
        exact (mul_left_inj' (units_ne_zero exponent)).symm

/-! ## Doubles taken apart -/

section Unpacked

def isNegative : Sign → Bool
  | .negative => true
  | .positive => false

/-- The kind of a double that is taken apart. -/
def Binary.ofUnpacked : UnpackedFloat → Binary
  | .notANumber => .notANumber
  | .infinity sign => .infinite (isNegative sign)
  | .zero sign => .finite (isNegative sign) 0 (-1074)
  | .finite sign mantissa exponent _ => .finite (isNegative sign) mantissa exponent

variable (bits : BitVec 64)

private theorem toNat_unpackMantissa :
    (@UnpackedFloat.unpackMantissa .binary64 bits).toNat = bits.toNat % Nat.pow 2 52 := by
  show (bits.extractLsb' 0 52).toNat = _
  rw [BitVec.extractLsb'_toNat]
  rfl

private theorem toNat_unpackExponent :
    (@UnpackedFloat.unpackExponent .binary64 bits).toNat =
      bits.toNat / Nat.pow 2 52 % Nat.pow 2 11 := by
  show (bits.extractLsb' 52 11).toNat = _
  rw [BitVec.extractLsb'_toNat, Nat.shiftRight_eq_div_pow]

private theorem isNegative_unpackSign :
    isNegative (Sign.ofBitVec (@UnpackedFloat.unpackSign .binary64 bits)) =
      (bits.toNat / Nat.pow 2 63 % 2 == 1) := by
  have value : (@UnpackedFloat.unpackSign .binary64 bits).toNat =
      bits.toNat / Nat.pow 2 63 % 2 := by
    show (bits.extractLsb' 63 1).toNat = _
    rw [BitVec.extractLsb'_toNat, Nat.shiftRight_eq_div_pow]
  have zero_iff : @UnpackedFloat.unpackSign .binary64 bits = 0#1 ↔
      bits.toNat / Nat.pow 2 63 % 2 = 0 := by
    rw [← value, ← BitVec.toNat_inj]
    rfl
  simp only [Sign.ofBitVec, zero_iff]
  split
  next isZero =>
    rw [isZero]
    rfl
  next nonzero =>
    have isOne : bits.toNat / Nat.pow 2 63 % 2 = 1 := by omega
    rw [isOne]
    rfl

private theorem Binary.ofBits_eq_ofUnpacked :
    ofBits bits.toNat = ofUnpacked (UnpackedFloat.unpack .binary64 bits) := by
  have fraction := toNat_unpackMantissa bits
  have biased := toNat_unpackExponent bits
  have fraction_zero_iff : @UnpackedFloat.unpackMantissa .binary64 bits = 0#52 ↔
      bits.toNat % Nat.pow 2 52 = 0 := by
    rw [← fraction, ← BitVec.toNat_inj]
    rfl
  have biased_full_iff : @UnpackedFloat.unpackExponent .binary64 bits = -1#11 ↔
      bits.toNat / Nat.pow 2 52 % Nat.pow 2 11 = 2047 := by
    rw [← biased, ← BitVec.toNat_inj]
    rfl
  have biased_zero_iff : @UnpackedFloat.unpackExponent .binary64 bits = 0#11 ↔
      bits.toNat / Nat.pow 2 52 % Nat.pow 2 11 = 0 := by
    rw [← biased, ← BitVec.toNat_inj]
    rfl
  have bias : Format.binary64.exponentBias = 1023 := rfl
  unfold UnpackedFloat.unpack ofBits
  rw [← isNegative_unpackSign bits]
  by_cases isFull : bits.toNat / Nat.pow 2 52 % Nat.pow 2 11 = 2047
  · rw [if_pos (beq_iff_eq.mpr isFull), if_pos (biased_full_iff.mpr isFull)]
    by_cases noFraction : bits.toNat % Nat.pow 2 52 = 0
    · rw [if_pos (beq_iff_eq.mpr noFraction), if_pos (fraction_zero_iff.mpr noFraction)]
      rfl
    · rw [if_neg (mt beq_iff_eq.mp noFraction), if_neg (mt fraction_zero_iff.mp noFraction)]
      rfl
  · rw [if_neg (mt beq_iff_eq.mp isFull), if_neg (mt biased_full_iff.mp isFull)]
    by_cases isZero : bits.toNat / Nat.pow 2 52 % Nat.pow 2 11 = 0
    · rw [if_pos (beq_iff_eq.mpr isZero), if_pos (biased_zero_iff.mpr isZero)]
      by_cases noFraction : bits.toNat % Nat.pow 2 52 = 0
      · rw [dif_pos (fraction_zero_iff.mpr noFraction), noFraction]
        rfl
      · rw [dif_neg (mt fraction_zero_iff.mp noFraction), ofUnpacked, fraction, biased, isZero, bias]
        rfl
    · have leading : (1#1 ++ @UnpackedFloat.unpackMantissa .binary64 bits).toNat =
          bits.toNat % Nat.pow 2 52 + Nat.pow 2 52 := by
        have isLow : (@UnpackedFloat.unpackMantissa .binary64 bits).toNat < 2 ^ 52 := BitVec.isLt _
        rw [BitVec.toNat_append, ← Nat.shiftLeft_add_eq_or_of_lt isLow, fraction, Nat.add_comm]
        rfl
      have unbiased (field : Nat) : (field : Int) - 1075 = field - ((1023 : Nat) + (52 : Nat)) := by
        omega
      rw [if_neg (mt beq_iff_eq.mp isZero), if_neg (mt biased_zero_iff.mp isZero), ofUnpacked, biased,
        bias, leading, unbiased]

theorem Binary.ofFloat_eq_ofUnpacked (number : Float) :
    ofFloat number = ofUnpacked number.toModel.unpack :=
  ofBits_eq_ofUnpacked number.toModel.toBits.toBitVec

end Unpacked

/-! ## Equal doubles -/

section Equal

variable {left right : Nat} {leftExponent rightExponent : Int} {leftSign rightSign : Sign}

/-- The magnitude of a finite double, with its sign outside. -/
theorem magnitude_finite (sign : Sign) (mantissa : Nat) (exponent : Int) :
    (Binary.finite (isNegative sign) mantissa exponent).magnitude =
      .multiple (match sign with
        | .negative => -((mantissa * units exponent : Nat) : Int)
        | .positive => (mantissa * units exponent : Nat)) := by
  cases sign <;> simp [Binary.magnitude, isNegative]

private theorem magnitude_finite_ne_zero (positive : 0 < left) :
    (Binary.finite (isNegative leftSign) left leftExponent).magnitude ≠ .multiple 0 := by
  have nonzero := Nat.mul_pos positive (units_pos leftExponent)
  rw [magnitude_finite, Ne, Magnitude.multiple.injEq]
  cases leftSign <;> simp only <;> omega

private theorem magnitude_finite_inj (leftPositive : 0 < left) (rightPositive : 0 < right)
    (leftCanonical : Binary.IsCanonical left leftExponent)
    (rightCanonical : Binary.IsCanonical right rightExponent) :
    (Binary.finite (isNegative leftSign) left leftExponent).magnitude =
        (Binary.finite (isNegative rightSign) right rightExponent).magnitude ↔
      leftSign = rightSign ∧ leftExponent = rightExponent ∧ left = right := by
  have leftUnits := Nat.mul_pos leftPositive (units_pos leftExponent)
  have rightUnits := Nat.mul_pos rightPositive (units_pos rightExponent)
  rw [magnitude_finite, magnitude_finite, Magnitude.multiple.injEq,
    ← mul_units_inj leftCanonical rightCanonical]
  cases leftSign <;> cases rightSign <;>
    simp only [reduceCtorEq, false_and, true_and, iff_false] <;> omega

/-- The parts of a double are canonical. -/
def AreCanonical : UnpackedFloat → Prop
  | .finite _ mantissa exponent _ => Binary.IsCanonical mantissa exponent
  | _ => True

theorem areCanonical_unpack (number : Float) : AreCanonical number.toModel.unpack := by
  have kind := Binary.ofFloat_eq_ofUnpacked number
  cases parts : number.toModel.unpack with
  | finite sign mantissa exponent positive =>
      rw [parts] at kind
      exact Binary.isCanonical_of_ofBits kind
  | _ => trivial

/-- Parts of the same magnitude are the same, but for the sign of zero. -/
theorem magnitude_ofUnpacked_inj {left right : UnpackedFloat} (leftCanonical : AreCanonical left)
    (rightCanonical : AreCanonical right) :
    (Binary.ofUnpacked left).magnitude = (Binary.ofUnpacked right).magnitude ↔
      left = right ∨ ∃ leftSign rightSign, left = .zero leftSign ∧ right = .zero rightSign := by
  have magnitude_zero (sign : Sign) :
      (Binary.ofUnpacked (.zero sign)).magnitude = .multiple 0 := by
    cases sign <;> rfl
  have finite_ne_zero (sign : Sign) {mantissa : Nat} (exponent : Int) (positive : 0 < mantissa) :
      (Binary.ofUnpacked (.finite sign mantissa exponent positive)).magnitude ≠ .multiple 0 :=
    magnitude_finite_ne_zero positive
  have isNegative_inj {sign otherSign : Sign} :
      isNegative sign = isNegative otherSign ↔ sign = otherSign := by
    cases sign <;> cases otherSign <;> simp [isNegative]
  cases left with
  | notANumber => cases right <;> simp [Binary.ofUnpacked, Binary.magnitude]
  | infinity sign => cases right <;> simp [Binary.ofUnpacked, Binary.magnitude, isNegative_inj]
  | zero sign =>
      cases right with
      | zero otherSign => simp [magnitude_zero]
      | finite otherSign mantissa exponent positive =>
          rw [magnitude_zero, @eq_comm Magnitude]
          simp [finite_ne_zero]
      | _ => simp [Binary.ofUnpacked, Binary.magnitude]
  | finite sign mantissa exponent positive =>
      cases right with
      | zero otherSign => simp [magnitude_zero, finite_ne_zero]
      | finite otherSign other otherExponent otherPositive =>
          rw [Binary.ofUnpacked, Binary.ofUnpacked,
            magnitude_finite_inj positive otherPositive leftCanonical rightCanonical]
          simp [and_comm]
      | _ => simp [Binary.ofUnpacked, Binary.magnitude]

/-- Doubles are equal exactly when they have the same magnitude. -/
theorem sameFloat_iff {left right : Float} :
    Value.sameFloat left right = true ↔
      (Binary.ofFloat left).magnitude = (Binary.ofFloat right).magnitude := by
  rw [Binary.ofFloat_eq_ofUnpacked, Binary.ofFloat_eq_ofUnpacked,
    magnitude_ofUnpacked_inj (areCanonical_unpack left) (areCanonical_unpack right)]
  show (left.toModel.unpack.beq right.toModel.unpack ||
    (left.toModel.unpack.isNaN && right.toModel.unpack.isNaN)) = true ↔ _
  generalize left.toModel.unpack = leftParts, right.toModel.unpack = rightParts
  rw [Bool.or_eq_true, Bool.and_eq_true, UnpackedFloat.beq_iff_ne_notANumber_and_eq,
    UnpackedFloat.isNaN_iff, UnpackedFloat.isNaN_iff]
  constructor
  · rintro (⟨_, _, same | ⟨leftZero, rightZero⟩ | ⟨leftZero, rightZero⟩⟩ | ⟨leftNot, rightNot⟩)
    · exact .inl same
    · exact .inr ⟨_, _, leftZero, rightZero⟩
    · exact .inr ⟨_, _, leftZero, rightZero⟩
    · exact .inl (leftNot.trans rightNot.symm)
  · rintro (same | ⟨leftSign, rightSign, rfl, rfl⟩)
    · by_cases isNot : leftParts = .notANumber
      · exact .inr ⟨isNot, same ▸ isNot⟩
      · exact .inl ⟨isNot, same ▸ isNot, .inl same⟩
    · cases leftSign <;> cases rightSign <;> simp

end Equal

end WorkflowLint.Decimal
