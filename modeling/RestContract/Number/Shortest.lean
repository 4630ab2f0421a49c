import RestContract.Number.Double

/-!
# Shortest decimals

The shortest decimal that reads back as a given number: with one digit, then two, and so on, the
two neighbours of the number on the grid of decimals with that many digits are tried until one of
them lies in the interval of reals that round to the number. Seventeen digits always suffice.
-/

namespace RestContract.Double

/-- A decimal `digits · 10 ^ exponent`. -/
structure Decimal where
  digits : Nat
  exponent : Int
  deriving DecidableEq, Repr

/-- The numbers that round to a finite number other than zero, as multiples of a fraction `num/den`:
    the number itself and the ends of the interval, which belong to it when `closed`. -/
structure Interval where
  num : Nat
  den : Nat
  low : Nat
  centre : Nat
  high : Nat
  closed : Bool

/-- The interval of a significand and exponent, in quarters of its last place. Below a power of two
    the neighbours are half as far away. -/
def interval (significand : Nat) (exponent : Int) : Interval :=
  let (num, den) := scaleQuotient 1 1 (2 - exponent)
  let low := if significand = Nat.pow 2 52 ∧ exponent ≠ -1074 then 4 * significand - 1
    else 4 * significand - 2
  { num, den, low, centre := 4 * significand, high := 4 * significand + 2,
    closed := significand % 2 == 0 }

/-- A decimal as a fraction. -/
def Decimal.fraction (decimal : Decimal) : Nat × Nat :=
  (decimal.digits * Nat.pow 10 decimal.exponent.toNat, Nat.pow 10 (-decimal.exponent).toNat)

/-- Whether a decimal lies in the interval. -/
def Interval.contains (i : Interval) (decimal : Decimal) : Bool :=
  let (num, den) := decimal.fraction
  let point := num * i.den
  let low := i.low * i.num * den
  let high := i.high * i.num * den
  if i.closed then low ≤ point && point ≤ high else low < point && point < high

/-- The exponent `e` with `10 ^ e ≤ num / den < 10 ^ (e + 1)`, for a quotient between the least and
    the largest number of the format. -/
def decimalExponent (num den : Nat) : Int :=
  if den ≤ num then (Nat.toDigits 10 (num / den)).length - 1
  else
    match (List.range 330).find? fun k => den ≤ num * Nat.pow 10 k with
    | some k => -k
    | none => -330

/-- The digits of the quotient `num / den` on the grid of multiples of `10 ^ exponent`, rounded
    down, with what is left over and what one more digit is worth. -/
def onGrid (num den : Nat) (exponent : Int) : Nat × Nat × Nat :=
  let n := num * Nat.pow 10 (-exponent).toNat
  let d := den * Nat.pow 10 exponent.toNat
  (n / d, n % d, d)

/-- The decimal nearest to the number among its neighbours on one grid, if one of them reads back
    as the number. -/
def Interval.onGrid? (i : Interval) (exponent : Int) : Option Decimal :=
  let (floor, rest, unit) := onGrid (i.centre * i.num) i.den exponent
  let below : Decimal := ⟨floor, exponent⟩
  let above : Decimal := ⟨floor + 1, exponent⟩
  match i.contains below, i.contains above with
  | true, true =>
    if 2 * rest < unit ∨ (2 * rest = unit ∧ floor % 2 = 0) then some below else some above
  | true, false => some below
  | false, true => some above
  | false, false => none

/-- A decimal without zeros at its end. -/
def Decimal.stripZeros : Nat → Decimal → Decimal
  | 0, decimal => decimal
  | fuel + 1, decimal =>
    if decimal.digits ≠ 0 ∧ decimal.digits % 10 = 0 then
      stripZeros fuel ⟨decimal.digits / 10, decimal.exponent + 1⟩
    else decimal

/-- The shortest decimal that reads back as a finite number other than zero. -/
def shortest (significand : Nat) (exponent : Int) : Decimal :=
  let i := interval significand exponent
  let leading := decimalExponent (i.centre * i.num) i.den
  let found := (List.range 17).findSome? fun (count : Nat) => i.onGrid? (leading - count)
  (found.getD ⟨significand, 0⟩).stripZeros 20

end RestContract.Double
