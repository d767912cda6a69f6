import Mathlib.Algebra.Order.Field.Power
import Mathlib.Data.Rat.Floor
import Mathlib.Tactic.NormNum
import Mathlib.Tactic.Set
import ClusterKeeper.Time.Binary64
/-!
Where binary64 arithmetic is exact.

An operation rounds its exact result once, so that nothing is lost where this result is a binary64
value itself: a whole number of at most 53 binary digits, times a power of two within the range. The
unit to which such a number is rounded goes into it without a remainder. Whole numbers below 2 ^ 53
are values, also when they are doubled many times, and so powers of two are computed as they are.
-/

namespace ClusterKeeper.Binary64

variable {p q : Rat} {n doublings : Nat}

theorem natCast_two_pow {exponent : Int} (h : 0 ≤ exponent) :
    ((Nat.pow 2 exponent.toNat : Nat) : Rat) = (2 : Rat) ^ exponent := by
  obtain ⟨n, rfl⟩ := Int.eq_ofNat_of_zero_le h
  rw [Int.toNat_natCast, zpow_natCast]
  exact Nat.cast_pow 2 n

theorem powerOfTwo_eq_zpow (exponent : Int) : powerOfTwo exponent = (2 : Rat) ^ exponent := by
  unfold powerOfTwo
  split
  · next h => exact natCast_two_pow h
  · next h => rw [natCast_two_pow (by omega), zpow_neg, one_div, inv_inv]

theorem abs_eq_abs (q : Rat) : q.abs = |q| := by
  rcases le_total 0 q with h | h
  · rw [Rat.abs_of_nonneg h, abs_of_nonneg h]
  · rw [Rat.abs_of_nonpos h, abs_of_nonpos h]

/-- A whole number is the one nearest to it. -/
theorem nearestEven_intCast (n : Int) : nearestEven (n : Rat) = n := by
  have hhalf : (0 : Rat) < 1 / 2 := by norm_num
  simp only [nearestEven, Rat.floor_intCast, sub_self, if_pos hhalf]

/-- A positive number reaches the place of its leading digit. -/
theorem zpow_leadingExponent_le (hq : 0 < q) : (2 : Rat) ^ leadingExponent q ≤ q := by
  unfold leadingExponent
  simp only [powerOfTwo_eq_zpow]
  split
  · next h => exact h
  · -- The leading digits of numerator and denominator leave one place open between them.
    have hnum : (2 : Rat) ^ q.num.natAbs.log2 ≤ q.num.natAbs := by
      exact_mod_cast Nat.log2_self_le (Int.natAbs_ne_zero.mpr (Rat.num_ne_zero.mpr hq.ne'))
    have hden : (q.den : Rat) ≤ (2 : Rat) ^ (q.den.log2 + 1) := by
      exact_mod_cast Nat.lt_log2_self.le
    have hquot : (q.num.natAbs : Rat) / q.den = q := by
      rw [Nat.cast_natAbs, abs_of_pos (Rat.num_pos.mpr hq), Rat.num_div_den]
    calc (2 : Rat) ^ ((q.num.natAbs.log2 : Int) - q.den.log2 - 1)
        = (2 : Rat) ^ q.num.natAbs.log2 / (2 : Rat) ^ (q.den.log2 + 1) := by
          rw [sub_sub, zpow_sub₀ two_ne_zero, zpow_natCast]
          norm_cast
      _ ≤ (q.num.natAbs : Rat) / q.den :=
          div_le_div₀ (Nat.cast_nonneg _) hnum (Nat.cast_pos.mpr q.den_pos) hden
      _ = q := hquot

/-- The number is a binary64 value: a whole number of at most 53 binary digits, times a power of two
that is neither below the smallest subnormal number nor too large for the range. -/
def IsValue (q : Rat) : Prop :=
  ∃ significand exponent : Int, |significand| < 2 ^ 53 ∧ -1074 ≤ exponent ∧ exponent ≤ 971 ∧
    q = significand * (2 : Rat) ^ exponent

/-- A number of 53 digits stays below the place of the next one, wherever its last digit stands. -/
theorem abs_mul_zpow_lt {significand : Int} (h : |significand| < 2 ^ 53) (exponent : Int) :
    |(significand : Rat) * (2 : Rat) ^ exponent| < (2 : Rat) ^ (53 + exponent) := by
  have hpos : (0 : Rat) < (2 : Rat) ^ exponent := zpow_pos two_pos exponent
  have hcast : |(significand : Rat)| < (2 : Rat) ^ (53 : Int) := by exact_mod_cast h
  calc |(significand : Rat) * (2 : Rat) ^ exponent|
      = |(significand : Rat)| * (2 : Rat) ^ exponent := by rw [abs_mul, abs_of_pos hpos]
    _ < (2 : Rat) ^ (53 : Int) * (2 : Rat) ^ exponent := mul_lt_mul_of_pos_right hcast hpos
    _ = (2 : Rat) ^ (53 + exponent) := (zpow_add₀ two_ne_zero 53 exponent).symm

theorem IsValue.abs_lt (h : IsValue q) : |q| < (2 : Rat) ^ (1024 : Int) := by
  obtain ⟨significand, exponent, hsignificand, -, hexponent, rfl⟩ := h
  exact (abs_mul_zpow_lt hsignificand exponent).trans_le
    (zpow_le_zpow_right₀ one_le_two (by omega))

/-- The unit in the last place goes into a binary64 value without a remainder. -/
theorem IsValue.exists_mul_lastPlace (h : IsValue q) (hq : q ≠ 0) :
    ∃ n : Int, q = n * lastPlace |q| := by
  obtain ⟨significand, exponent, hsignificand, hlow, -, hvalue⟩ := h
  have hleading : leadingExponent |q| < 53 + exponent := by
    have hlt : |q| < (2 : Rat) ^ (53 + exponent) := hvalue ▸ abs_mul_zpow_lt hsignificand exponent
    exact (zpow_lt_zpow_iff_right₀ one_lt_two).mp
      ((zpow_leadingExponent_le (abs_pos.mpr hq)).trans_lt hlt)
  rw [lastPlace, powerOfTwo_eq_zpow]
  set place := max (leadingExponent |q| - 52) (-1074)
  refine ⟨significand * 2 ^ (exponent - place).toNat, ?_⟩
  have hshift : ((exponent - place).toNat : Int) = exponent - place :=
    Int.toNat_of_nonneg (by omega)
  push_cast
  rw [mul_assoc, ← zpow_natCast, hshift, ← zpow_add₀ two_ne_zero, sub_add_cancel, hvalue]

/-- Rounding leaves a binary64 value alone. -/
theorem round_eq_finite (h : IsValue q) : round q = .finite q := by
  unfold round
  split
  · next hzero => rw [hzero]
  · next hne =>
      obtain ⟨n, hn⟩ := h.exists_mul_lastPlace hne
      have hunit : lastPlace |q| ≠ 0 := by
        intro hunit
        rw [hunit, mul_zero] at hn
        exact hne hn
      have hquot : q / lastPlace |q| = n := by rw [div_eq_iff hunit, ← hn]
      have hrounded : (nearestEven (q / lastPlace |q|) : Rat) * lastPlace |q| = q := by
        rw [hquot, nearestEven_intCast, ← hn]
      have hrange : ¬ (2 : Rat) ^ (1024 : Int) ≤ |q| := not_le.mpr h.abs_lt
      simp only [abs_eq_abs, powerOfTwo_eq_zpow, hrounded, if_neg hrange]

theorem finite_add_finite (h : IsValue (p + q)) : finite p + finite q = finite (p + q) :=
  round_eq_finite h

theorem finite_mul_finite (h : IsValue (p * q)) : finite p * finite q = finite (p * q) :=
  round_eq_finite h

theorem lesser_finite (p q : Rat) : lesser (finite p) (finite q) = finite (min p q) := by
  rcases lt_or_ge q p with h | h
  · simp [lesser, below, h, min_eq_right h.le]
  · simp [lesser, below, h.not_gt, min_eq_left h]

/-- A whole number below 2 ^ 53 is a binary64 value, doubled or not. -/
theorem IsValue.natCast_mul_two_pow (hn : n < 2 ^ 53) (hdoublings : doublings ≤ 971) :
    IsValue ((n : Rat) * 2 ^ doublings) := by
  refine ⟨n, doublings, ?_, by omega, by omega, by rw [Int.cast_natCast, zpow_natCast]⟩
  rw [abs_of_nonneg (Int.natCast_nonneg n)]
  exact_mod_cast hn

theorem IsValue.natCast (hn : n < 2 ^ 53) : IsValue (n : Rat) := by
  simpa using natCast_mul_two_pow hn (Nat.zero_le 971)

theorem IsValue.zero : IsValue 0 := by
  simpa using natCast (n := 0) (by norm_num)

theorem IsValue.two_pow (hdoublings : doublings ≤ 971) : IsValue ((2 : Rat) ^ doublings) := by
  simpa using natCast_mul_two_pow (n := 1) (by norm_num) hdoublings

theorem ofNat_eq_finite (hn : n < 2 ^ 53) : ofNat n = finite n := round_eq_finite (.natCast hn)

theorem two_pow_mul_two_pow {m n : Nat} (h : m + n ≤ 971) :
    finite (2 ^ m) * finite (2 ^ n) = finite (2 ^ (m + n)) := by
  have hpow : (2 : Rat) ^ m * 2 ^ n = 2 ^ (m + n) := (pow_add 2 m n).symm
  rw [finite_mul_finite (hpow ▸ IsValue.two_pow h), hpow]

/-- Squaring computes powers of two as they are, where the last square, which is not used any more,
is within the range as well. -/
theorem powerTimes_two_pow (grown growth n : Nat) (h : grown + 2 * (growth * n) ≤ 971) :
    powerTimes (finite (2 ^ grown)) (finite (2 ^ growth)) n =
      finite (2 ^ (grown + growth * n)) := by
  induction n using Nat.strong_induction_on generalizing grown growth with
  | _ n ih =>
      rw [powerTimes]
      split
      · next hn => rw [hn, Nat.mul_zero, Nat.add_zero]
      · next hn =>
          have hgrowth : growth ≤ growth * n :=
            Nat.le_mul_of_pos_right growth (Nat.pos_of_ne_zero hn)
          have hhalf : (growth + growth) * (n / 2) + growth * (n % 2) = growth * n := by
            rw [← Nat.two_mul, Nat.mul_comm 2, Nat.mul_assoc, ← Nat.mul_add, Nat.div_add_mod]
          have hless : n / 2 < n := Nat.div_lt_self (Nat.pos_of_ne_zero hn) one_lt_two
          rw [two_pow_mul_two_pow (m := growth) (by omega)]
          -- The last binary digit says whether the base itself goes into the product.
          rcases Nat.mod_two_eq_zero_or_one n with heven | hodd
          · rw [heven, Nat.mul_zero, Nat.add_zero] at hhalf
            rw [if_neg (by omega), ih _ hless _ _ (by omega), hhalf]
          · rw [hodd, Nat.mul_one] at hhalf
            rw [if_pos hodd, two_pow_mul_two_pow (by omega), ih _ hless _ _ (by omega),
              Nat.add_assoc, Nat.add_comm growth, hhalf]

theorem power_two (hn : 2 * n ≤ 971) : (finite 2).power n = finite (2 ^ n) := by
  have h := powerTimes_two_pow 0 1 n (by omega)
  simpa [power] using h

end ClusterKeeper.Binary64
