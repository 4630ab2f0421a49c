/-!
# Binary floating-point numbers

Numbers of the 64-bit binary interchange format, held as a sign, a whole significand and a power of
two, so that every finite number is an exact dyadic rational. All arithmetic is done on exact
quotients and rounded once, to the nearest number with ties to the even significand.
-/

namespace RestContract

/-- The significands and exponents of the format: 53 bits, of which only the numbers of the least
    exponent may leave the highest unset. A finite number has one such form. -/
def Double.Canonical (significand : Nat) (exponent : Int) : Prop :=
  significand < Nat.pow 2 53 ∧ -1074 ≤ exponent ∧ exponent ≤ 971 ∧
    (Nat.pow 2 52 ≤ significand ∨ exponent = -1074)

instance (significand : Nat) (exponent : Int) :
    Decidable (Double.Canonical significand exponent) := by
  unfold Double.Canonical
  infer_instance

/-- A number of the 64-bit binary format. -/
inductive Double where
  /-- A result that is no number. Such results are told apart by where they come from. -/
  | nan (origin : Nat)
  /-- Beyond the largest finite numbers. -/
  | infinite (negative : Bool)
  /-- `significand · 2 ^ exponent` with a sign, which zero has too. -/
  | finite (negative : Bool) (significand : Nat) (exponent : Int)
      (canonical : Double.Canonical significand exponent)
  deriving DecidableEq

namespace Double

/-- Zero, with a sign. -/
def zero (negative : Bool) : Double := .finite negative 0 (-1074) (by decide)

instance : Inhabited Double := ⟨zero false⟩

/-- The number with this sign, significand and exponent; one too large for the format is
    infinite. -/
def ofParts (negative : Bool) (significand : Nat) (exponent : Int) : Double :=
  if h : Canonical significand exponent then .finite negative significand exponent h
  else .infinite negative

/-- The natural number nearest to a quotient; a half goes to the even neighbour. -/
def roundQuotient (num den : Nat) : Nat :=
  let whole := num / den
  let twice := 2 * (num % den)
  if twice < den ∨ (twice = den ∧ whole % 2 = 0) then whole else whole + 1

/-- The quotient `num / (den · 2 ^ exponent)` as a numerator and a denominator. -/
def scaleQuotient (num den : Nat) (exponent : Int) : Nat × Nat :=
  (num * Nat.pow 2 (-exponent).toNat, den * Nat.pow 2 exponent.toNat)

/-- The number nearest to `num / den`. The exponent is the one that gives the quotient 53 bits, or
    the least of the format. -/
def ofQuotient (negative : Bool) (num den : Nat) : Double :=
  if num = 0 then zero negative
  else
    let guess : Int := (num.log2 : Int) - den.log2 - 52
    let (n, d) := scaleQuotient num den guess
    let exponent := max (-1074) (if n / d < Nat.pow 2 52 then guess - 1 else guess)
    let (n, d) := scaleQuotient num den exponent
    let significand := roundQuotient n d
    if significand = Nat.pow 2 53 then ofParts negative (Nat.pow 2 52) (exponent + 1)
    else ofParts negative significand exponent

/-- The number nearest to an integer. -/
def ofInt (n : Int) : Double := ofQuotient (n < 0) n.natAbs 1

/-- The number nearest to `digits · 10 ^ exponent`. Exponents that no finite number other than zero
    can meet are settled without computing the power. -/
def ofDecimal (negative : Bool) (digits : Nat) (exponent : Int) : Double :=
  if digits = 0 then zero negative
  else if exponent > 400 then .infinite negative
  else if exponent + (digits.log2 / 3 + 1) < -330 then zero negative
  else ofQuotient negative (digits * Nat.pow 10 exponent.toNat) (Nat.pow 10 (-exponent).toNat)

/-- Whether the number is neither infinite nor no number. -/
def isFinite : Double → Bool
  | .finite .. => true
  | _ => false

/-- Whether the number is zero, of either sign. -/
def isZero : Double → Bool
  | .finite _ significand .. => significand == 0
  | _ => false

/-- Whether the number has a minus sign. -/
def isNegative : Double → Bool
  | .nan _ => false
  | .infinite negative => negative
  | .finite negative .. => negative

/-- Whether the number is greater than zero. -/
def isPositive : Double → Bool
  | .nan _ => false
  | .infinite negative => !negative
  | .finite negative significand .. => !negative && significand != 0

/-- An integer with a sign given apart. -/
def signed (negative : Bool) (n : Nat) : Int := if negative then -n else n

/-- The integer that the number equals, if it is whole. -/
def toInt? : Double → Option Int
  | .finite negative significand exponent _ =>
    let (num, den) := scaleQuotient significand 1 (-exponent)
    if num % den = 0 then some (signed negative (num / den)) else none
  | _ => none

/-- The exact value as a fraction, if the number is finite. -/
def toFraction? : Double → Option (Int × Nat)
  | .finite negative significand exponent _ =>
    let (num, den) := scaleQuotient significand 1 (-exponent)
    some (signed negative num, den)
  | _ => none

/-- Equality of values: the two zeros are equal, and a result that is no number counts as equal to
    itself. -/
def same (x y : Double) : Bool := x == y || (x.isZero && y.isZero)

/-- The number with the opposite sign. -/
def negate : Double → Double
  | .nan origin => .nan origin
  | .infinite negative => .infinite (!negative)
  | .finite negative significand exponent canonical =>
    .finite (!negative) significand exponent canonical

/-- The number; a result that is no number comes from the given origin. -/
def withOrigin (origin : Nat) : Double → Double
  | .nan _ => .nan origin
  | x => x

/-- The rounded sum. -/
def add (x y : Double) : Double :=
  match x.toFraction?, y.toFraction? with
  | some (a, b), some (c, d) =>
    let sum := a * d + c * b
    ofQuotient (sum < 0) sum.natAbs (b * d)
  | some _, none => y
  | none, some _ => x
  | none, none => if x = y then x else .nan 0

/-- The rounded product. That of zero and an infinite number is no number. -/
def mul (x y : Double) : Double :=
  match x, y with
  | .finite _ m e _, .finite _ n k _ =>
    let negative := x.isNegative != y.isNegative
    let (num, den) := scaleQuotient (m * n) 1 (-(e + k))
    ofQuotient negative num den
  | .nan origin, _ => .nan origin
  | _, .nan origin => .nan origin
  | x, y => if x.isZero || y.isZero then .nan 0 else .infinite (x.isNegative != y.isNegative)

end Double
end RestContract
