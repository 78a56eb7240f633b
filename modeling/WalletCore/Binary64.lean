/-! # Finite binary64 numbers

A finite number of the 64-bit binary format is a sign, a significand of at most 53 bits and a
power of two. Every result here is an exact quotient of naturals rounded once, to the nearest
number of the format and on a tie to the even significand; a result beyond the largest number of
the format is absent.
-/
namespace WalletCore

/-- The quotient of two naturals rounded to the nearest natural, a tie to the even one. -/
def roundQuotient (dividend divisor : Nat) : Nat :=
  let quotient := dividend / divisor
  let twice := 2 * (dividend % divisor)
  if twice < divisor then quotient
  else if divisor < twice then quotient + 1
  else quotient + quotient % 2

/-- Significands have fewer than 54 bits: they lie below 2 ^ 53. -/
abbrev Binary64.bound : Nat := 9007199254740992

/-- The significands from here on, 2 ^ 52, have all 53 bits. -/
abbrev Binary64.leastFull : Nat := 4503599627370496

/-- A finite number of the 64-bit binary format, of value ± significand · 2 ^ exponent. -/
structure Binary64 where
  /-- Whether the number carries a minus sign; zero may carry one. -/
  negative : Bool
  /-- The significand. -/
  significand : Nat
  /-- The power of two. -/
  exponent : Int
  /-- The significand has 53 bits, or fewer at the least exponent, so each value of the format
  has one form. -/
  canonical : significand < Binary64.bound ∧ -1074 ≤ exponent ∧ exponent ≤ 971 ∧
    (significand < Binary64.leastFull → exponent = -1074)
deriving DecidableEq

namespace Binary64

/-- Zero, with a sign. -/
def zero (negative : Bool) : Binary64 := ⟨negative, 0, -1074, by decide⟩

/-- Whether the number is a zero of either sign. -/
def isZero (number : Binary64) : Bool := number.significand = 0

/-- The number of the opposite sign. -/
def neg (number : Binary64) : Binary64 := { number with negative := !number.negative }

/-- The number with a significand and exponent, if the format has it in that form. -/
def ofParts? (negative : Bool) (significand : Nat) (exponent : Int) : Option Binary64 :=
  if canonical : significand < bound ∧ -1074 ≤ exponent ∧ exponent ≤ 971 ∧
      (significand < leastFull → exponent = -1074) then
    some ⟨negative, significand, exponent, canonical⟩
  else none

/-- The number nearest to a quotient of naturals, a tie to the even significand; absent if that
is beyond the largest number. -/
def ofQuotient? (negative : Bool) (dividend divisor : Nat) : Option Binary64 :=
  if dividend = 0 then some (zero negative)
  else
    -- The quotient lies strictly between 2 ^ 52 and 2 ^ 54 times this power of two.
    let estimate : Int := (dividend.log2 : Int) - divisor.log2 - 53
    let scaled (exponent : Int) : Nat × Nat :=
      (dividend <<< (-exponent).toNat, divisor <<< exponent.toNat)
    let (top, bottom) := scaled estimate
    let exponent := max (-1074) (if top < bottom * bound then estimate else estimate + 1)
    let (top, bottom) := scaled exponent
    let significand := roundQuotient top bottom
    if significand < bound then ofParts? negative significand exponent
    else ofParts? negative (significand / 2) (exponent + 1)

/-- The product, rounded. -/
def mul? (left right : Binary64) : Option Binary64 :=
  let exponent := left.exponent + right.exponent
  ofQuotient? (left.negative != right.negative)
    ((left.significand * right.significand) <<< exponent.toNat) (1 <<< (-exponent).toNat)

/-- The quotient by a number other than zero, rounded. -/
def div? (left right : Binary64) : Option Binary64 :=
  let exponent := left.exponent - right.exponent
  ofQuotient? (left.negative != right.negative)
    (left.significand <<< exponent.toNat) (right.significand <<< (-exponent).toNat)

/-- The number nearest to ten to a natural power. -/
def powerOfTen? (power : Nat) : Option Binary64 := ofQuotient? false (Nat.pow 10 power) 1

/-- The largest power of ten that the format has. -/
def greatestPowerOfTen : Nat := 308

/-- The quotient by ten to a natural power that the format has, with one rounding. -/
def divPowerOfTen? (number : Binary64) (power : Nat) : Option Binary64 :=
  (powerOfTen? power).bind number.div?

/-- Divide by ten to any natural power: in steps of the largest power of ten that the format has,
and one smaller step at the end, with one rounding in each step. -/
def scaleDown? (number : Binary64) (power : Nat) : Option Binary64 :=
  if power ≤ greatestPowerOfTen then number.divPowerOfTen? power
  else if number.isZero then some number
  else (number.divPowerOfTen? greatestPowerOfTen).bind fun smaller =>
    smaller.scaleDown? (power - greatestPowerOfTen)
termination_by power
decreasing_by
  have positive : 0 < greatestPowerOfTen := by decide
  omega

/-- The number that a decimal `significand · 10 ^ exponent` is read as: the significand is
rounded first, then the product with, or the quotient by, the rounded power of ten. Absent if it
is beyond the largest number. -/
def ofDecimal? (significand : Nat) (exponent : Int) : Option Binary64 := do
  let number ← ofQuotient? false significand 1
  if exponent < 0 then number.scaleDown? exponent.natAbs
  else if exponent ≤ greatestPowerOfTen then number.mul? (← powerOfTen? exponent.toNat)
  else if number.isZero then some number
  else none

end Binary64

end WalletCore
