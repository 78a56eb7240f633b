import WalletCore.Binary64

/-! # Shortest decimals of binary64 numbers

The shortest decimal of a number is the one with the fewest digits among those that the format
rounds back to the number; of two with equally many digits the nearer one, and on a tie the one
with the even last digit. All comparisons are exact comparisons of naturals.
-/
namespace WalletCore.Decimal

/-- A positive decimal: the digits as one natural, and the power of ten that multiplies it. -/
structure Scaled where
  /-- The digits. -/
  digits : Nat
  /-- The power of ten. -/
  exponent : Int
deriving DecidableEq

/-- The decimal without the zeros at its end. -/
def Scaled.strip (decimal : Scaled) : Scaled :=
  if decimal.digits = 0 then decimal
  else if decimal.digits % 10 = 0 then
    Scaled.strip ⟨decimal.digits / 10, decimal.exponent + 1⟩
  else decimal
termination_by decimal.digits
decreasing_by exact Nat.div_lt_self (Nat.pos_of_ne_zero (by assumption)) (by decide)

/-- The power of ten of the first digit. -/
def Scaled.leading (decimal : Scaled) : Int :=
  (Nat.toDigits 10 decimal.digits).length - 1 + decimal.exponent

/-- The numbers that the format rounds to one number, in a unit of which each end is a multiple. -/
structure Interval where
  /-- The number itself. -/
  middle : Nat
  /-- The lower end. -/
  low : Nat
  /-- The upper end. -/
  high : Nat
  /-- Whether the ends themselves round to the number. -/
  closed : Bool
  /-- The unit, as a power of two. -/
  unit : Int

/-- The numbers that round to a positive number: halfway to its neighbours on both sides, where
the lower neighbour of a power of two is only half as far away. Ties round to even significands. -/
def Interval.around (number : Binary64) : Interval where
  middle := 4 * number.significand
  low := 4 * number.significand -
    if number.significand = Binary64.leastFull ∧ number.exponent ≠ -1074 then 1 else 2
  high := 4 * number.significand + 2
  closed := number.significand % 2 = 0
  unit := number.exponent - 2

/-- A multiple of the unit as a fraction. -/
def Interval.fraction (interval : Interval) (multiple : Nat) : Nat × Nat :=
  (multiple <<< interval.unit.toNat, 1 <<< (-interval.unit).toNat)

/-- Compare `digits · 10 ^ exponent` with a fraction. -/
def compareWith (decimal : Scaled) (fraction : Nat × Nat) : Ordering :=
  compare (decimal.digits * Nat.pow 10 decimal.exponent.toNat * fraction.2)
    (fraction.1 * Nat.pow 10 (-decimal.exponent).toNat)

/-- Whether a decimal lies in an interval. -/
def Interval.admits (interval : Interval) (decimal : Scaled) : Bool :=
  let below := compareWith decimal (interval.fraction interval.low)
  let above := compareWith decimal (interval.fraction interval.high)
  (below == .gt || (interval.closed && below == .eq)) &&
    (above == .lt || (interval.closed && above == .eq))

/-- The power of ten of the first digit of the middle. Every number of the format is at least
10 ^ (-400), so its product with 10 ^ 400 has an integral part with as many digits more. -/
def Interval.leading (interval : Interval) : Int :=
  let (top, bottom) := interval.fraction interval.middle
  ((Nat.toDigits 10 (top * Nat.pow 10 400 / bottom)).length : Int) - 401

/-- The decimal of a given power of ten nearest to the middle among its two neighbours that lie in
the interval. -/
def Interval.nearest? (interval : Interval) (exponent : Int) : Option Scaled :=
  let (top, bottom) := interval.fraction interval.middle
  let top := top * Nat.pow 10 (-exponent).toNat
  let bottom := bottom * Nat.pow 10 exponent.toNat
  let lower : Scaled := ⟨top / bottom, exponent⟩
  let upper : Scaled := ⟨top / bottom + 1, exponent⟩
  match interval.admits lower, interval.admits upper with
  | false, false => none
  | true, false => some lower
  | false, true => some upper
  | true, true => some ⟨roundQuotient top bottom, exponent⟩

/-- The shortest decimal of a positive number. Seventeen digits always suffice. -/
def shortest (number : Binary64) : Scaled :=
  let interval := Interval.around number
  let leading := interval.leading
  ((List.range 17).findSome? fun further => interval.nearest? (leading - (further : Nat))).elim
    ⟨0, 0⟩ Scaled.strip

end WalletCore.Decimal
