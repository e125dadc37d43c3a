import WorkflowLint.Decimal.Binary

/-!
Contract: the shortest decimal digits that read back as a given double.

For one digit, two digits, and so on, the two neighbours of the value on the decimal grid with that
many digits are tested against the interval of reals that round to the double.  The first grid with
a hit wins, and of two hits the nearer.
-/

set_option autoImplicit false

namespace WorkflowLint.Decimal

/-- `digits · 10 ^ (exponent - count + 1)`, where `digits` has `count` digits: scientific notation
with the point after the first digit. -/
structure Scientific where
  digits : Nat
  count : Nat
  exponent : Int

/-- The greatest `e` with `10 ^ e ≤ numerator / denominator`, for positive arguments. -/
def decimalExponent (numerator denominator : Nat) : Int :=
  let guess : Int := ((numerator.log2 : Int) - denominator.log2) * 30103 / 100000
  let fits (candidate : Int) : Bool :=
    if 0 ≤ candidate then denominator * Nat.pow 10 candidate.toNat ≤ numerator
    else denominator ≤ numerator * Nat.pow 10 (-candidate).toNat
  if fits (guess + 2) then guess + 2
  else if fits (guess + 1) then guess + 1
  else if fits guess then guess
  else guess - 1

/-- The reals that round to one double: its exact value and the ends of its interval, all over one
denominator, and whether the ends belong to it. -/
structure RoundingInterval where
  low : Nat
  value : Nat
  high : Nat
  denominator : Nat
  closed : Bool

/-- The reals that round to `mantissa · 2 ^ exponent`.  The gap below a power of two is half as
wide as the gap above it. -/
def RoundingInterval.around (mantissa : Nat) (exponent : Int) : RoundingInterval :=
  let narrow := mantissa == Nat.pow 2 52 && -1074 < exponent
  let scale := if 2 ≤ exponent then Nat.pow 2 (exponent - 2).toNat else 1
  { low := (if narrow then 4 * mantissa - 1 else 4 * mantissa - 2) * scale
    value := 4 * mantissa * scale
    high := (4 * mantissa + 2) * scale
    denominator := if 2 ≤ exponent then 1 else Nat.pow 2 (2 - exponent).toNat
    closed := mantissa % 2 == 0 }

/-- `numerator / denominator`, over a denominator of its own, rounds to the double. -/
def RoundingInterval.holds (interval : RoundingInterval) (numerator denominator : Nat) : Bool :=
  let point := numerator * interval.denominator
  let low := interval.low * denominator
  let high := interval.high * denominator
  if interval.closed then low ≤ point && point ≤ high else low < point && point < high

/-- The digits found on the grid with `count` digits, if one of the two neighbours of the value
rounds to the double. -/
def gridDigits? (interval : RoundingInterval) (exponent : Int) (count : Nat) : Option Nat :=
  let step : Int := exponent - count + 1
  let up := if 0 ≤ step then Nat.pow 10 step.toNat else 1
  let down := if 0 ≤ step then 1 else Nat.pow 10 (-step).toNat
  let numerator := interval.value * down
  let denominator := interval.denominator * up
  let below := numerator / denominator
  let remainder := numerator % denominator
  let takesBelow := interval.holds (below * up) down
  let takesAbove := interval.holds ((below + 1) * up) down
  if takesBelow && takesAbove then
    if 2 * remainder < denominator || (2 * remainder == denominator && below % 2 == 0) then some below
    else some (below + 1)
  else if takesBelow then some below
  else if takesAbove then some (below + 1)
  else none

/-- Try grids with `count`, `count + 1`, … digits, `tries` of them. -/
def shortestFrom (interval : RoundingInterval) (exponent : Int) : Nat → Nat → Scientific
  | 0, count => ⟨interval.value / interval.denominator, count, exponent⟩
  | tries + 1, count =>
      match gridDigits? interval exponent count with
      | some digits =>
          if digits == Nat.pow 10 count then ⟨1, 1, exponent + 1⟩ else ⟨digits, count, exponent⟩
      | none => shortestFrom interval exponent tries (count + 1)

/-- The shortest digits that read back as the positive double `mantissa · 2 ^ exponent`. -/
def shortest (mantissa : Nat) (exponent : Int) : Scientific :=
  let interval := RoundingInterval.around mantissa exponent
  shortestFrom interval (decimalExponent interval.value interval.denominator) 17 1

structure Layout where
  /-- Least decimal exponent that is written positionally. -/
  leastPositional : Int
  /-- First decimal exponent that is written with an exponent mark. -/
  firstExponential : Int
  /-- Least number of exponent digits. -/
  exponentWidth : Nat
  infinite : String
  notANumber : String

/-- Numbers in values and messages: positional from `0.0001` up to below `10 ^ 16`, otherwise with a
signed exponent of at least two digits. -/
def Layout.plain : Layout := ⟨-4, 16, 2, "inf", "nan"⟩

/-- As `Layout.plain`, with the spelling of JSON texts for what is not finite. -/
def Layout.json : Layout := { Layout.plain with infinite := "Infinity", notANumber := "NaN" }

def digitsOf (number : Nat) : List Char :=
  Nat.toDigits 10 number

def ofInt (number : Int) : List Char :=
  if number < 0 then '-' :: digitsOf number.natAbs else digitsOf number.natAbs

def padded (width : Nat) (number : Nat) : List Char :=
  let digits := digitsOf number
  List.replicate (width - digits.length) '0' ++ digits

def Layout.scientific (layout : Layout) (number : Scientific) : List Char :=
  let digits := digitsOf number.digits
  let exponent := number.exponent
  if layout.leastPositional ≤ exponent && exponent < layout.firstExponential then
    if exponent < 0 then
      '0' :: '.' :: List.replicate (-exponent - 1).toNat '0' ++ digits
    else
      let whole := exponent.toNat + 1
      let filled := digits ++ List.replicate (whole - digits.length) '0'
      let fraction := filled.drop whole
      filled.take whole ++ '.' :: (if fraction.isEmpty then ['0'] else fraction)
  else
    let point := if digits.length ≤ 1 then digits else digits.take 1 ++ '.' :: digits.drop 1
    let sign := if exponent < 0 then '-' else '+'
    point ++ 'e' :: sign :: padded layout.exponentWidth exponent.natAbs

def Layout.float (layout : Layout) (number : Float) : List Char :=
  match Binary.ofFloat number with
  | .notANumber => layout.notANumber.toList
  | .infinite negative => (if negative then ['-'] else []) ++ layout.infinite.toList
  | .finite negative mantissa exponent =>
      (if negative then ['-'] else []) ++
        if mantissa == 0 then ['0', '.', '0'] else layout.scientific (shortest mantissa exponent)

end WorkflowLint.Decimal
