import ExtractionSchema.Number.Basic

/-!
# Rounding to binary64

A decimal text names a rational number; the floating-point number read from it is the binary64
value nearest to that rational, and a rational halfway between two goes to the one with the even
significand. All steps are exact integer arithmetic.

* `Floating.nearest` rounds a quotient of natural numbers.
* `Floating.ofDecimal` rounds `digits · 10 ^ exponent`.
-/

namespace ExtractionSchema

/-- Rounds `num / den` to an integer; a half goes to the even neighbour. -/
def roundHalfEven (num den : Nat) : Nat :=
  let q := num / den
  let r := num % den
  if den < 2 * r || (2 * r = den && q % 2 = 1) then q + 1 else q

namespace Floating

/-- Exponent of the unit in the last place of a binary64 number in `[2 ^ e, 2 ^ (e + 1))`. -/
def unitExponent (e : Int) : Int := max (e - 52) (-1074)

/-- The zero of the given sign. -/
def zero (negative : Bool) : Floating := if negative then .negativeZero else .finite 0

/-- The integer `e` with `2 ^ e ≤ num / den < 2 ^ (e + 1)`, for positive `num` and `den`. -/
def binaryExponent (num den : Nat) : Int :=
  let e : Int := (num.log2 : Int) - (den.log2 : Int)
  let reached := if 0 ≤ e then den <<< e.toNat ≤ num else den ≤ num <<< (-e).toNat
  if reached then e else e - 1

/-- The binary64 number nearest to `num / den` with the given sign. -/
def nearest (negative : Bool) (num den : Nat) : Floating :=
  if num = 0 || den = 0 then zero negative else
  let unit := unitExponent (binaryExponent num den)
  let significand :=
    if 0 ≤ unit then roundHalfEven num (den <<< unit.toNat)
    else roundHalfEven (num <<< (-unit).toNat) den
  if significand = 0 then zero negative
  else if 1024 ≤ (significand.log2 : Int) + unit then .infinity negative
  else .finite (Dyadic.ofIntWithPrec (if negative then -significand else significand) (-unit))

/-- The binary64 number nearest to `digits · 10 ^ exponent` with the given sign. Exponents far
outside the range of binary64 are answered without computing the power. -/
def ofDecimal (negative : Bool) (digits : Nat) (exponent : Int) : Floating :=
  if digits = 0 then zero negative
  else if 400 < exponent then .infinity negative
  else if exponent < -((digits.log2 : Int) + 400) then zero negative
  else if 0 ≤ exponent then nearest negative (digits * Nat.pow 10 exponent.toNat) 1
  else nearest negative digits (Nat.pow 10 (-exponent).toNat)

end Floating

end ExtractionSchema
