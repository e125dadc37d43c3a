/-!
Contract: the exact value behind a double, and the double nearest to an exact ratio.

A finite double is `± mantissa · 2 ^ exponent`.  Rounding goes to the nearest double and a tie to the
even mantissa; a magnitude past the largest double gives an infinity.
-/

set_option autoImplicit false

namespace WorkflowLint.Decimal

/-- The kinds of doubles, with the exact value of a finite one. -/
inductive Binary where
  | notANumber
  | infinite (negative : Bool)
  | finite (negative : Bool) (mantissa : Nat) (exponent : Int)

namespace Binary

def ofBits (bits : Nat) : Binary :=
  let negative := bits / Nat.pow 2 63 % 2 == 1
  let biased : Nat := bits / Nat.pow 2 52 % Nat.pow 2 11
  let fraction : Nat := bits % Nat.pow 2 52
  if biased == 2047 then
    if fraction == 0 then .infinite negative else .notANumber
  else if biased == 0 then .finite negative fraction (-1074)
  else .finite negative (fraction + Nat.pow 2 52) ((biased : Int) - 1075)

def ofFloat (number : Float) : Binary :=
  ofBits number.toBits.toNat

end Binary

/-- `numerator / denominator` rounded to the nearest integer, ties to even. -/
def roundHalfEven (numerator denominator : Nat) : Nat :=
  let quotient := numerator / denominator
  let twice := 2 * (numerator % denominator)
  if denominator < twice || (twice == denominator && quotient % 2 == 1) then quotient + 1
  else quotient

/-- The greatest `e` with `2 ^ e ≤ numerator / denominator`, for positive arguments. -/
def binaryExponent (numerator denominator : Nat) : Int :=
  let guess : Int := (numerator.log2 : Int) - denominator.log2
  let fits :=
    if 0 ≤ guess then denominator * Nat.pow 2 guess.toNat ≤ numerator
    else denominator ≤ numerator * Nat.pow 2 (-guess).toNat
  if fits then guess else guess - 1

/-- Bit pattern of the double nearest to `numerator / denominator`. -/
def nearestBits (numerator denominator : Nat) : Nat :=
  if numerator == 0 then 0
  else
    let unit := max (binaryExponent numerator denominator - 52) (-1074)
    let mantissa :=
      if 0 ≤ unit then roundHalfEven numerator (denominator * Nat.pow 2 unit.toNat)
      else roundHalfEven (numerator * Nat.pow 2 (-unit).toNat) denominator
    let (mantissa, unit) :=
      if mantissa == Nat.pow 2 53 then (Nat.pow 2 52, unit + 1) else (mantissa, unit)
    if 971 < unit then 2047 * Nat.pow 2 52
    else if mantissa < Nat.pow 2 52 then mantissa
    else (unit + 1075).toNat * Nat.pow 2 52 + (mantissa - Nat.pow 2 52)

/-- The double nearest to `± numerator / denominator`. -/
def nearest (negative : Bool) (numerator denominator : Nat) : Float :=
  let bits := nearestBits numerator denominator
  Float.ofBits (UInt64.ofNat (if negative then bits + Nat.pow 2 63 else bits))

/-- The double nearest to `± mantissa · 10 ^ exponent`.  Magnitudes outside the range of doubles are
settled without computing the power of ten, when bounds on the logarithm of the mantissa show it:
`30102 / 100000 < log₁₀ 2 < 30103 / 100000`. -/
def nearestDecimal (negative : Bool) (mantissa : Nat) (exponent : Int) : Float :=
  let least : Int := (mantissa.log2 : Int) * 30102 / 100000 + exponent
  let most : Int := ((mantissa.log2 : Int) + 1) * 30103 / 100000 + 1 + exponent
  if mantissa == 0 || most < -400 then nearest negative 0 1
  else if 400 < least then nearest negative (Nat.pow 2 1024) 1
  else if 0 ≤ exponent then nearest negative (mantissa * Nat.pow 10 exponent.toNat) 1
  else nearest negative mantissa (Nat.pow 10 (-exponent).toNat)

/-- The double nearest to an integer; `none` when that is past the largest double. -/
def nearestInt? (number : Int) : Option Float :=
  if nearestBits number.natAbs 1 == 2047 * Nat.pow 2 52 then none
  else some (nearest (number < 0) number.natAbs 1)

/-- The integer that a double holds, when it holds one. -/
def Binary.toInt? : Binary → Option Int
  | .finite negative mantissa exponent =>
      let magnitude? : Option Nat :=
        if 0 ≤ exponent then some (mantissa * Nat.pow 2 exponent.toNat)
        else
          let unit := Nat.pow 2 (-exponent).toNat
          if mantissa % unit == 0 then some (mantissa / unit) else none
      magnitude?.map fun magnitude => if negative then -(magnitude : Int) else magnitude
  | _ => none

/-- Exact order of a double and an integer; `none` for what is not a number. -/
def Binary.compareInt : Binary → Int → Option Ordering
  | .notANumber, _ => none
  | .infinite negative, _ => some (if negative then .lt else .gt)
  | .finite negative mantissa exponent, number =>
      let signed : Int := if negative then -(mantissa : Int) else mantissa
      if 0 ≤ exponent then some (compare (signed * Nat.pow 2 exponent.toNat) number)
      else some (compare signed (number * Nat.pow 2 (-exponent).toNat))

end WorkflowLint.Decimal
