import ClusterKeeper.Proofs.Time.Exactness
import ClusterKeeper.Settings
/-!
How the delay after failures grows.

The delay before jitter is computed in binary64, in seconds. As long as the first delay and the
bound are whole seconds below 2 ^ 53, every number on the way is a binary64 value, so that the delay
is what exact arithmetic gives: the first delay, doubled with each further failure, thirty-two times
at most, and cut at the bound. Under the settings the bound is the larger one of the two, and the
delay stays there once it has grown to it.
-/

namespace ClusterKeeper

namespace Delay

/-- A span of whole seconds is converted to that number. -/
theorem toBinary64_ofSeconds {seconds : UInt64} (h : seconds.toNat < 2 ^ 53) :
    (ofSeconds seconds).toBinary64 = .finite seconds.toNat := by
  have hwhole : (ofSeconds seconds).seconds = seconds.toNat :=
    Nat.mul_div_cancel seconds.toNat (by decide)
  have hrest : (ofSeconds seconds).subseconds = 0 := Nat.mul_mod_left seconds.toNat perSecond
  have hsum : Binary64.IsValue ((seconds.toNat : Rat) + 0) := by
    rw [add_zero]
    exact .natCast h
  rw [toBinary64, hwhole, hrest, Nat.cast_zero, zero_div, Binary64.ofNat_eq_finite h,
    Binary64.round_eq_finite .zero, Binary64.finite_add_finite hsum, add_zero]

/-- A whole number of seconds is converted to that span. -/
theorem ofBinary64?_natCast {seconds : Nat} (h : seconds < 2 ^ 64) :
    ofBinary64? (.finite seconds) = some ⟨seconds * perSecond⟩ := by
  have hpossible : ¬ ((seconds : Rat) < 0 ∨ Binary64.powerOfTwo 64 ≤ seconds) := by
    rw [Binary64.powerOfTwo_eq_zpow, not_or, not_lt, not_le]
    exact ⟨Nat.cast_nonneg seconds, by exact_mod_cast h⟩
  have hnanos : ((seconds : Rat) * perSecond) = ((seconds * perSecond : Nat) : Int) := by
    push_cast
    rfl
  rw [ofBinary64?, if_neg hpossible, hnanos, Binary64.nearestEven_intCast, Int.toNat_natCast]

end Delay

namespace Backoff

variable {initial bound failures : Nat}

/-- The seconds to wait after that many failures in a row: the first delay, doubled with each
failure beyond the first, but thirty-two times at most, and cut at the bound. -/
def doubledSeconds (initial bound failures : Nat) : Nat :=
  min (initial * 2 ^ min (max failures 1 - 1) 32) bound

theorem growth_eq (failures : UInt32) : growth failures = min (max failures.toNat 1 - 1) 32 := by
  rw [growth, growthLimit]
  omega

theorem doubledSeconds_le_bound : doubledSeconds initial bound failures ≤ bound :=
  Nat.min_le_right _ _

theorem le_doubledSeconds (h : initial ≤ bound) :
    initial ≤ doubledSeconds initial bound failures :=
  Nat.le_min.mpr ⟨Nat.le_mul_of_pos_right initial (Nat.two_pow_pos _), h⟩

theorem doubledSeconds_mono (initial bound : Nat) : Monotone (doubledSeconds initial bound) := by
  intro earlier later hle
  have hgrowth : min (max earlier 1 - 1) 32 ≤ min (max later 1 - 1) 32 := by omega
  exact min_le_min_right bound
    (Nat.mul_le_mul_left initial (Nat.pow_le_pow_right (by decide) hgrowth))

/-- All thirty-two doublings are behind the thirty-third failure. -/
theorem doubledSeconds_eq_bound (hbound : bound ≤ initial * 2 ^ 32) (hfailures : 33 ≤ failures) :
    doubledSeconds initial bound failures = bound := by
  have hgrowth : min (max failures 1 - 1) 32 = 32 := by omega
  rw [doubledSeconds, hgrowth, Nat.min_eq_right hbound]

/-- Between whole seconds there is a delay after any number of failures, and it is the one that
exact arithmetic gives. -/
theorem baseDelay?_eq_some {initial bound : UInt64} (hinitial : initial.toNat < 2 ^ 53)
    (hbound : bound.toNat < 2 ^ 53) (failures : UInt32) :
    baseDelay? ⟨.ofSeconds initial, .ofSeconds bound, .ofNat 2⟩ failures =
      some ⟨doubledSeconds initial.toNat bound.toNat failures.toNat * Delay.perSecond⟩ := by
  have hgrowth : growth failures ≤ 32 := Nat.min_le_right _ _
  have hpower : (Binary64.ofNat 2).power (growth failures) = .finite (2 ^ growth failures) := by
    rw [Binary64.ofNat_eq_finite (by norm_num), Nat.cast_ofNat, Binary64.power_two (by omega)]
  have hproduct : Binary64.IsValue ((initial.toNat : Rat) * 2 ^ growth failures) :=
    .natCast_mul_two_pow hinitial (by omega)
  have hleast : min ((initial.toNat : Rat) * 2 ^ growth failures) bound.toNat =
      (doubledSeconds initial.toNat bound.toNat failures.toNat : Nat) := by
    rw [doubledSeconds, ← growth_eq]
    push_cast
    rfl
  have hlt : doubledSeconds initial.toNat bound.toNat failures.toNat < 2 ^ 64 :=
    (doubledSeconds_le_bound.trans_lt hbound).trans (by norm_num)
  rw [baseDelay?, Delay.toBinary64_ofSeconds hinitial, Delay.toBinary64_ofSeconds hbound, hpower,
    Binary64.finite_mul_finite hproduct, Binary64.lesser_finite, hleast,
    Delay.ofBinary64?_natCast hlt]

end Backoff

/-- With settings of at most 2 ^ 20 seconds there is a delay after any number of failures. It is the
first one doubled with each further failure, up to the larger one of the two settings. So it never
shrinks, lies between the first delay and the larger setting, and unless the first delay is none at
all it has reached the latter at the thirty-third failure. -/
theorem backoff_doubles_to_maximum (s : Settings) (hinitial : s.backoffInitial.toNat ≤ 2 ^ 20)
    (hmaximum : s.backoffMaximum.toNat ≤ 2 ^ 20) :
    ∃ delay : UInt32 → Delay,
      (∀ failures, s.backoff.baseDelay? failures = some (delay failures)) ∧
      (∀ failures, delay failures = ⟨Backoff.doubledSeconds s.backoffInitial.toNat
        (max s.backoffInitial.toNat s.backoffMaximum.toNat) failures.toNat * Delay.perSecond⟩) ∧
      (∀ earlier later, earlier ≤ later → (delay earlier).nanos ≤ (delay later).nanos) ∧
      (∀ failures, s.backoffInitial.toNat * Delay.perSecond ≤ (delay failures).nanos ∧
        (delay failures).nanos ≤
          max s.backoffInitial.toNat s.backoffMaximum.toNat * Delay.perSecond) ∧
      (1 ≤ s.backoffInitial.toNat → ∀ failures, 33 ≤ failures →
        delay failures =
          ⟨max s.backoffInitial.toNat s.backoffMaximum.toNat * Delay.perSecond⟩) := by
  have hbound : (max s.backoffMaximum s.backoffInitial).toNat =
      max s.backoffInitial.toNat s.backoffMaximum.toNat := by
    rw [UInt64.toNat_max, Nat.max_comm]
  have hlarger : max s.backoffInitial.toNat s.backoffMaximum.toNat ≤ 2 ^ 20 :=
    Nat.max_le.mpr ⟨hinitial, hmaximum⟩
  refine ⟨_, fun failures => ?_, fun _ => rfl, fun earlier later hle => ?_,
    fun failures => ⟨?_, ?_⟩, fun hpositive failures hfailures => ?_⟩
  · rw [← hbound]
    exact Backoff.baseDelay?_eq_some (by omega) (by omega) failures
  · exact Nat.mul_le_mul_right _ (Backoff.doubledSeconds_mono _ _ (UInt32.le_iff_toNat_le.mp hle))
  · exact Nat.mul_le_mul_right _ (Backoff.le_doubledSeconds (Nat.le_max_left _ _))
  · exact Nat.mul_le_mul_right _ Backoff.doubledSeconds_le_bound
  · rw [Backoff.doubledSeconds_eq_bound (by omega) (UInt32.le_iff_toNat_le.mp hfailures)]

/-- Settings with a first delay that is no power of two, and a maximum that is one. -/
def patientSettings : Settings := { Settings.standard with
  backoffInitial := 3
  backoffMaximum := 1048576 }

/-- The delay after the nineteenth failure is the last one that is not cut. -/
theorem patient_backoff_doubles :
    patientSettings.backoffInitial.toNat ≤ 2 ^ 20 ∧
      patientSettings.backoffMaximum.toNat ≤ 2 ^ 20 ∧
      patientSettings.backoff.baseDelay? 19 = some ⟨786432 * Delay.perSecond⟩ ∧
      patientSettings.backoff.baseDelay? 20 = some ⟨1048576 * Delay.perSecond⟩ ∧
      (19 : UInt32) ≤ 20 ∧ 786432 * Delay.perSecond ≤ 1048576 * Delay.perSecond ∧
      1 ≤ patientSettings.backoffInitial.toNat ∧ (33 : UInt32) ≤ 4294967295 ∧
      patientSettings.backoff.baseDelay? 4294967295 = some ⟨1048576 * Delay.perSecond⟩ := by
  have hinitial : patientSettings.backoffInitial.toNat ≤ 2 ^ 20 := by decide
  have hmaximum : patientSettings.backoffMaximum.toNat ≤ 2 ^ 20 := by decide
  obtain ⟨delay, hdelay, hdoubled, hmono, _, hreached⟩ :=
    backoff_doubles_to_maximum patientSettings hinitial hmaximum
  have hlast : delay 19 = ⟨786432 * Delay.perSecond⟩ := (hdoubled 19).trans (by decide)
  have hcut : delay 20 = ⟨1048576 * Delay.perSecond⟩ := (hdoubled 20).trans (by decide)
  have hnext : (19 : UInt32) ≤ 20 := by decide
  have hgrown := hmono 19 20 hnext
  rw [hlast, hcut] at hgrown
  have hpositive : 1 ≤ patientSettings.backoffInitial.toNat := by decide
  have hlate : (33 : UInt32) ≤ 4294967295 := by decide
  have hstays : delay 4294967295 = ⟨1048576 * Delay.perSecond⟩ :=
    (hreached hpositive _ hlate).trans (by decide)
  rw [hdelay, hdelay, hdelay, hlast, hcut, hstays]
  exact ⟨hinitial, hmaximum, rfl, rfl, hnext, hgrown, hpositive, hlate, rfl⟩

end ClusterKeeper
