import Mathlib.Algebra.Order.Field.Power
import Mathlib.Data.Rat.Cast.Order
import Mathlib.Tactic.Positivity
import RestContract.Proofs.Acceptance

/-!
# Exact values of floating-point numbers

A finite floating-point number is a significand times a power of two. Since its form is canonical,
two such numbers have one value only if they have one form, except for the two zeros. So numbers
count as the same just where their values are equal, and a number counts as whole just where its
value is.
-/

namespace RestContract.Double

/-- A whole number times a power of two. -/
def dyadic (negative : Bool) (significand : Nat) (exponent : Int) : Rat :=
  (signed negative significand : Rat) * 2 ^ exponent

variable {negative other : Bool} {m n : Nat} {e k : Int}

theorem signed_mul (negative : Bool) (m n : Nat) :
    signed negative (m * n) = signed negative m * n := by
  cases negative <;> simp [signed]

theorem natAbs_signed (negative : Bool) (m : Nat) : (signed negative m).natAbs = m := by
  cases negative <;> simp [signed]

theorem exact?_finite (h : Canonical m e) :
    Double.exact? (finite negative m e h) = some (dyadic negative m e) := by
  simp only [toFraction?, Double.exact?, scaleQuotient, Option.map_some, Option.some.injEq, dyadic]
  obtain ⟨p, rfl | rfl⟩ := e.eq_nat_or_neg
  · simp [signed_mul]
  · simp [div_eq_mul_inv]

theorem isFinite_iff {x : Double} : x.isFinite = true ↔ ∃ q, x.exact? = some q := by
  cases x with
  | nan | infinite => simp [isFinite, Double.exact?, toFraction?]
  | finite negative m e h => simp [isFinite, exact?_finite]

/-- A number counts as an integer just where that is its value. -/
theorem toInt?_eq_some_iff {x : Double} {n : Int} : x.toInt? = some n ↔ x.exact? = some (n : Rat) := by
  cases x with
  | nan | infinite => simp [toInt?, Double.exact?, toFraction?]
  | finite negative m e h =>
    simp only [toInt?, Double.exact?, toFraction?]
    generalize hs : scaleQuotient m 1 (-e) = fraction
    obtain ⟨num, den⟩ := fraction
    have hden : 0 < den := by
      simp only [scaleQuotient, Prod.mk.injEq] at hs
      simp [← hs.2]
    have hne : (den : Rat) ≠ 0 := by
      exact_mod_cast hden.ne'
    simp only [Option.map_some, Option.some.injEq]
    rw [div_eq_iff hne]
    norm_cast
    by_cases hmod : num % den = 0
    · obtain ⟨q, rfl⟩ := Nat.dvd_of_mod_eq_zero hmod
      simp [Nat.mul_comm den q, signed_mul, hden.ne']
    · have hdvd : ¬ signed negative num = n * den := by
        intro heq
        have habs := congrArg Int.natAbs heq
        rw [natAbs_signed, Int.natAbs_mul, Int.natAbs_natCast] at habs
        exact hmod (by simp [habs])
      simp [hmod, hdvd]

/-! ## Numbers of one value -/

theorem dyadic_eq_zero_iff : dyadic negative m e = 0 ↔ m = 0 := by
  have hpow : (2 : Rat) ^ e ≠ 0 := by positivity
  cases negative <;> simp [dyadic, signed, hpow]

theorem abs_dyadic (negative : Bool) (m : Nat) (e : Int) : |dyadic negative m e| = m * 2 ^ e := by
  have hpow : (0 : Rat) ≤ 2 ^ e := by positivity
  cases negative <;> simp [dyadic, signed, abs_mul, abs_of_nonneg hpow]

/-- The greater exponent needs a significand that the smaller one cannot make up for. -/
theorem not_lt_of_dyadic_eq (hm : Canonical m e) (hn : Canonical n k)
    (h : (m : Rat) * 2 ^ e = (n : Rat) * 2 ^ k) : ¬ e < k := by
  intro hlt
  obtain ⟨hm, he, -, -⟩ := hm
  obtain ⟨-, -, -, hn⟩ := hn
  have hlarge : Nat.pow 2 52 ≤ n := by omega
  obtain ⟨gap, rfl⟩ : ∃ gap : Nat, k = e + (gap + 1 : Nat) := ⟨(k - e - 1).toNat, by omega⟩
  rw [zpow_add₀ two_ne_zero, mul_left_comm, mul_comm, mul_right_inj' (by positivity)] at h
  rw [zpow_natCast] at h
  have hnat : m = n * 2 ^ (gap + 1) := by exact_mod_cast h
  have hpow : 2 ≤ 2 ^ (gap + 1) := Nat.le_self_pow (by omega) 2
  have hle : Nat.pow 2 52 * 2 ≤ m := hnat ▸ Nat.mul_le_mul hlarge hpow
  have : Nat.pow 2 53 = Nat.pow 2 52 * 2 := rfl
  omega

theorem eq_of_mul_pow_eq (hm : Canonical m e) (hn : Canonical n k)
    (h : (m : Rat) * 2 ^ e = (n : Rat) * 2 ^ k) : m = n ∧ e = k := by
  have hexp : e = k := by
    have hle := not_lt_of_dyadic_eq hm hn h
    have hge := not_lt_of_dyadic_eq hn hm h.symm
    omega
  subst hexp
  have hpow : (2 : Rat) ^ e ≠ 0 := by positivity
  exact ⟨by exact_mod_cast mul_right_cancel₀ hpow h, rfl⟩

/-- Canonical numbers of one value have one form, except for the two zeros. -/
theorem eq_of_dyadic_eq (hm : Canonical m e) (hn : Canonical n k)
    (h : dyadic negative m e = dyadic other n k) (hz : m ≠ 0) :
    negative = other ∧ m = n ∧ e = k := by
  have habs : (m : Rat) * 2 ^ e = (n : Rat) * 2 ^ k := by
    rw [← abs_dyadic negative, ← abs_dyadic other, h]
  obtain ⟨rfl, rfl⟩ := eq_of_mul_pow_eq hm hn habs
  have hpow : (2 : Rat) ^ e ≠ 0 := by positivity
  have hsigned : signed negative m = signed other m := by
    exact_mod_cast mul_right_cancel₀ hpow h
  cases negative <;> cases other <;> simp [signed] at hsigned ⊢ <;> omega

/-- Finite numbers count as the same just where their values are equal. -/
theorem same_iff {x y : Double} (hx : x.isFinite = true) (hy : y.isFinite = true) :
    x.same y = true ↔ x.exact? = y.exact? := by
  cases x with
  | nan | infinite => cases hx
  | finite negative m e hm =>
  cases y with
  | nan | infinite => cases hy
  | finite other n k hn =>
    simp only [same, isZero, exact?_finite, Bool.or_eq_true, Bool.and_eq_true, beq_iff_eq,
      Option.some.injEq]
    constructor
    · rintro (h | ⟨rfl, rfl⟩)
      · cases h
        rfl
      · rw [dyadic_eq_zero_iff.2 rfl, dyadic_eq_zero_iff.2 rfl]
    · intro h
      by_cases hz : m = 0
      · have hzero : dyadic other n k = 0 := by rw [← h, dyadic_eq_zero_iff.2 hz]
        exact .inr ⟨hz, dyadic_eq_zero_iff.1 hzero⟩
      · obtain ⟨rfl, rfl, rfl⟩ := eq_of_dyadic_eq hm hn h hz
        exact .inl rfl

end RestContract.Double
