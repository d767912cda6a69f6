import ClusterKeeper.Text.Numeral
/-!
What numerals stand for.

A numeral is a row of digits, with a plus sign before it or not. Reading goes through the digits
with the number so far, which only grows, so that it goes beyond the limit at some digit exactly if
the number at the end is beyond it.
-/

namespace ClusterKeeper.Text.Numeral

variable {limit number result : Nat} {text digits : List Char}

/-- A row of digits, of which there is one at least. -/
structure AreDigits (digits : List Char) : Prop where
  ne_nil : digits ≠ []
  isDigit : ∀ c ∈ digits, c.isDigit = true

/-- The text is a numeral for the number. -/
inductive Denotes : List Char → Nat → Prop where
  | plain {digits : List Char} : AreDigits digits → Denotes digits (Nat.ofDigitChars 10 digits 0)
  | signed {digits : List Char} : AreDigits digits →
      Denotes ('+' :: digits) (Nat.ofDigitChars 10 digits 0)

/-- Digits do not make a number smaller. -/
theorem le_ofDigitChars (digits : List Char) (number : Nat) :
    number ≤ Nat.ofDigitChars 10 digits number := by
  have hscale : 1 * number ≤ 10 ^ digits.length * number :=
    Nat.mul_le_mul_right number (Nat.pow_pos (by decide))
  rw [Nat.ofDigitChars_eq_ofDigitChars_zero]
  omega

theorem readDigits_eq_ok_iff (hnumber : number ≤ limit) :
    readDigits limit number text = .ok result ↔
      (∀ c ∈ text, c.isDigit = true) ∧ Nat.ofDigitChars 10 text number = result ∧
        result ≤ limit := by
  induction text generalizing number with
  | nil =>
      simp only [readDigits, Except.ok.injEq, List.not_mem_nil, false_implies, implies_true,
        Nat.ofDigitChars_nil, true_and]
      exact ⟨fun heq => ⟨heq, heq ▸ hnumber⟩, And.left⟩
  | cons c rest ih =>
      rw [readDigits, Nat.ofDigitChars_cons, Nat.mul_comm 10 number, List.forall_mem_cons]
      by_cases hdigit : c.isDigit = true
      · rw [if_pos hdigit]
        dsimp only
        split
        · next hnext => simp only [ih hnext, hdigit, true_and]; rfl
        · next hnext =>
            have hgrown := le_ofDigitChars rest (number * 10 + digitValue c)
            refine ⟨fun h => (by cases h), ?_⟩
            rintro ⟨_, rfl, hresult⟩
            exact absurd (Nat.le_trans hgrown hresult) hnext
      · rw [if_neg hdigit]
        exact ⟨fun h => (by cases h), fun h => absurd h.1.1 hdigit⟩

theorem readChars_signed (h : digits ≠ []) :
    readChars limit ('+' :: digits) = readDigits limit 0 digits := by
  cases digits with
  | nil => exact absurd rfl h
  | cons c rest => rfl

theorem readChars_plain {c : Char} (hc : c ≠ '+') (rest : List Char) :
    readChars limit (c :: rest) = readDigits limit 0 (c :: rest) := by
  unfold readChars
  split
  · next heq => cases heq
  · next heq => exact absurd (List.cons.inj heq).1 hc
  · next heq => exact absurd (List.cons.inj heq).1 hc
  · rfl

/-- What is read are exactly the numerals for numbers within the limit. -/
theorem readChars_eq_ok_iff :
    readChars limit text = .ok number ↔ Denotes text number ∧ number ≤ limit := by
  constructor
  · intro h
    cases text with
    | nil => cases h
    | cons c rest =>
        by_cases hc : c = '+'
        · subst hc
          cases rest with
          | nil => cases h
          | cons d others =>
              rw [readChars_signed (List.cons_ne_nil d others),
                readDigits_eq_ok_iff (Nat.zero_le limit)] at h
              obtain ⟨hdigits, rfl, hlimit⟩ := h
              exact ⟨.signed ⟨List.cons_ne_nil d others, hdigits⟩, hlimit⟩
        · rw [readChars_plain hc, readDigits_eq_ok_iff (Nat.zero_le limit)] at h
          obtain ⟨hdigits, rfl, hlimit⟩ := h
          exact ⟨.plain ⟨List.cons_ne_nil c rest, hdigits⟩, hlimit⟩
  · rintro ⟨hdenotes, hlimit⟩
    cases hdenotes with
    | plain hdigits =>
        cases text with
        | nil => exact absurd rfl hdigits.ne_nil
        | cons c rest =>
            have hc : c ≠ '+' := by
              rintro rfl
              exact absurd (hdigits.isDigit _ List.mem_cons_self) (by decide)
            rw [readChars_plain hc, readDigits_eq_ok_iff (Nat.zero_le limit)]
            exact ⟨hdigits.isDigit, rfl, hlimit⟩
    | signed hdigits =>
        rw [readChars_signed hdigits.ne_nil, readDigits_eq_ok_iff (Nat.zero_le limit)]
        exact ⟨hdigits.isDigit, rfl, hlimit⟩

/-- A number is written in digits. -/
theorem areDigits_toDigits (number : Nat) : AreDigits (Nat.toDigits 10 number) where
  ne_nil := Nat.toDigits_ne_nil
  isDigit := fun _ hc => Nat.isDigit_of_mem_toDigits (by decide) (by decide) hc

theorem denotes_repr (number : Nat) : Denotes number.repr.toList number := by
  have h := Denotes.plain (areDigits_toDigits number)
  rwa [Nat.ofDigitChars_ten_toDigits, ← Nat.toList_repr] at h

/-- A numeral has no point in it. -/
theorem Denotes.point_not_mem (h : Denotes text number) : '.' ∉ text := by
  have hdigits : ∀ {digits : List Char}, AreDigits digits → '.' ∉ digits := by
    intro digits hdigits hpoint
    exact absurd (hdigits.isDigit '.' hpoint) (by decide)
  cases h with
  | plain hplain => exact hdigits hplain
  | signed hsigned =>
      intro hpoint
      rcases List.mem_cons.mp hpoint with hsign | hpoint
      · cases hsign
      · exact hdigits hsigned hpoint

end ClusterKeeper.Text.Numeral
