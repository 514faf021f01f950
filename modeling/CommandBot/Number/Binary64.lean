import CommandBot.Number.Power

/-!
# Binary floating point

A `Binary64` is a number of the IEEE 754 format of that name, given by its 64 bits. It is read from
exact ratios by rounding to the nearest such number, halves to the even one, and ordered by the
total order of the standard, in which every NaN and both zeros have a place of their own.
-/

namespace CommandBot

/-- A floating-point number of 64 bits. -/
structure Binary64 where
  bits : UInt64
  deriving DecidableEq, Repr

namespace Binary64

open Number (twoPow tenPow)

/-- The sign bit. -/
def negative (x : Binary64) : Bool := twoPow 63 ≤ x.bits.toNat

/-- The bits other than the sign, which grow with the absolute value. -/
def magnitude (x : Binary64) : Nat := x.bits.toNat % twoPow 63

/-- The magnitude of infinity. Above it lie those of the NaNs. -/
def infinityMagnitude : Nat := 0x7FF * twoPow 52

/-- The number of a sign and a magnitude. -/
def ofParts (negative : Bool) (magnitude : Nat) : Binary64 :=
  ⟨UInt64.ofNat ((if negative then twoPow 63 else 0) + magnitude)⟩

/-- The quiet NaN of the given sign. -/
def nan (negative : Bool) : Binary64 := ofParts negative (infinityMagnitude + twoPow 51)

def infinity (negative : Bool) : Binary64 := ofParts negative infinityMagnitude

/-- Positive zero. -/
def zero : Binary64 := ⟨0⟩

/-- Whether the bits stand for no number. -/
def isNaN (x : Binary64) : Bool := infinityMagnitude < x.magnitude

/-- Whether the number is infinity of either sign. -/
def isInfinite (x : Binary64) : Bool := x.magnitude == infinityMagnitude

/-- The significand `m` of a finite number `± m · 2 ^ e`. -/
def significand (x : Binary64) : Nat :=
  if x.magnitude < twoPow 52 then x.magnitude else twoPow 52 + x.magnitude % twoPow 52

/-- The exponent `e` of a finite number `± m · 2 ^ e`. -/
def exponent (x : Binary64) : Int := (max (x.magnitude / twoPow 52) 1 : Nat) - 1075

/-- The place of a number in the total order: the negative ones in falling, the others in rising
order of the magnitude. -/
def rank (x : Binary64) : Int := if x.negative then -x.magnitude - 1 else x.magnitude

/-- The whole number nearest to `num / den`, halves to the even one. -/
def roundHalfEven (num den : Nat) : Nat :=
  let q := num / den
  let twice := 2 * (num % den)
  if twice < den then q else if den < twice then q + 1 else q + q % 2

/-- A ratio times `2 ^ k`. -/
def scaleRatio (num den : Nat) (k : Int) : Nat × Nat :=
  if 0 ≤ k then (num * twoPow k.toNat, den) else (num, den * twoPow (-k).toNat)

/-- The magnitude of the number nearest to `num / den`. The exponent is the one that leaves 53
binary digits before the point, but not below that of the least numbers. -/
def magnitudeOfRatio (num den : Nat) : Nat :=
  if num = 0 then 0
  else
    let guess : Int := (num.log2 : Int) - den.log2 - 53
    let (n, d) := scaleRatio num den (-guess)
    let e := max (if n / d < twoPow 53 then guess else guess + 1) (-1074)
    let (n, d) := scaleRatio num den (-e)
    min ((e + 1074).toNat * twoPow 52 + roundHalfEven n d) infinityMagnitude

/-- The number nearest to `± num / den`. -/
def ofRatio (negative : Bool) (num den : Nat) : Binary64 :=
  ofParts negative (magnitudeOfRatio num den)

/-- The absolute value of a finite number as a ratio. -/
def toRatio (x : Binary64) : Nat × Nat := scaleRatio x.significand 1 x.exponent

/-- The number of decimal digits of `n`. -/
def decimalLength (n : Nat) : Nat := (Nat.toDigits 10 n).length

/-- The number nearest to `± mantissa · 10 ^ exponent`. A number of 310 digits or more before the
point is infinite, and one whose first digit is 330 places after the point or later is zero, so the
power of ten is never large. -/
def ofDecimal (negative : Bool) (mantissa : Nat) (exponent : Int) : Binary64 :=
  let places := exponent + decimalLength mantissa
  if mantissa = 0 ∨ places < -330 then ofParts negative 0
  else if 310 < places then infinity negative
  else if 0 ≤ exponent then ofRatio negative (mantissa * tenPow exponent.toNat) 1
  else ofRatio negative mantissa (tenPow (-exponent).toNat)

end Binary64

end CommandBot
