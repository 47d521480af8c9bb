import QuotaShare.Proofs.Float.Packing

/-!
# Division of floating-point numbers

The leading digit of a quotient lies where those of the two numbers tell, or one position below it.
So a quotient is infinite only when the number is large and the divisor is small, and division by
one changes nothing.
-/

namespace QuotaShare.Binary64

open Float.Model Float.Model.UnpackedFloat

/-! ### The leading digit of a quotient -/

theorem log2_div_add_log2_le {m n : Nat} (hn : n ≠ 0) (hq : m / n ≠ 0) :
  (m / n).log2 + n.log2 ≤ m.log2
  := by
  have hm : m ≠ 0 := by
    intro hm
    rw [hm, Nat.zero_div] at hq
    apply hq rfl
  apply (Nat.le_log2 hm).mpr
  rw [Nat.pow_add]
  calc
    2 ^ (m / n).log2 * 2 ^ n.log2 ≤ m / n * n :=
      Nat.mul_le_mul (Nat.log2_self_le hq) (Nat.log2_self_le hn)
    _ ≤ m := Nat.div_mul_le_self m n

theorem log2_le_log2_div_add_log2 {m n : Nat} (hm : m ≠ 0) (hn : n ≠ 0) :
  m.log2 ≤ (m / n).log2 + n.log2 + 1
  := by
  apply Nat.le_of_lt_succ
  apply (Nat.log2_lt hm).mpr
  calc
    m < n * (m / n + 1) := Nat.lt_mul_div_succ m (Nat.pos_of_ne_zero hn)
    _ ≤ 2 ^ (n.log2 + 1) * 2 ^ ((m / n).log2 + 1) :=
      Nat.mul_le_mul (Nat.le_of_lt Nat.lt_log2_self) (Nat.lt_log2_self (n := m / n))
    _ = 2 ^ ((m / n).log2 + n.log2 + 1 + 1) := by
      rw [← Nat.pow_add]
      congr 1
      omega

/-! ### Quotients -/

/-- The exponent at which the digits of a quotient are computed. -/
def quotientExponent (m₁ : Nat) (e₁ : Int) (m₂ : Nat) (e₂ : Int) : Int :=
  min (e₁ - e₂) (max (totalExponent m₁ e₁ - totalExponent m₂ e₂ - 53) (-1074))

/-- The dividend with as many digits as the quotient needs. -/
def dividend (m₁ : Nat) (e₁ : Int) (m₂ : Nat) (e₂ : Int) : Nat :=
  m₁ <<< (e₁ - e₂ - quotientExponent m₁ e₁ m₂ e₂).toNat

theorem div_finite (s₁ s₂ : Sign) {m₁ m₂ : Nat} (e₁ e₂ : Int) (h₁ : 0 < m₁) (h₂ : 0 < m₂) :
  div Format.binary64 (.finite s₁ m₁ e₁ h₁) (.finite s₂ m₂ e₂ h₂) =
    roundWithAccuracy Format.binary64 (s₁ / s₂) (dividend m₁ e₁ m₂ e₂ / m₂)
      (quotientExponent m₁ e₁ m₂ e₂) (accuracyOfFraction (dividend m₁ e₁ m₂ e₂ % m₂) m₂)
  := rfl

theorem log2_dividend {m₁ : Nat} (h₁ : 0 < m₁) (e₁ : Int) (m₂ : Nat) (e₂ : Int) :
  (dividend m₁ e₁ m₂ e₂).log2 = m₁.log2 + (e₁ - e₂ - quotientExponent m₁ e₁ m₂ e₂)
  := by
  rw [dividend, log2_shiftLeft (Nat.ne_of_gt h₁), quotientExponent]
  omega

theorem dividend_ne_zero {m₁ : Nat} (h₁ : 0 < m₁) (e₁ : Int) (m₂ : Nat) (e₂ : Int) :
  dividend m₁ e₁ m₂ e₂ ≠ 0
  := by
  rw [dividend, Nat.shiftLeft_eq]
  apply Nat.mul_ne_zero (Nat.ne_of_gt h₁) (Nat.ne_of_gt (Nat.two_pow_pos _))

/-- A quotient is computed with enough digits. -/
theorem quotientExponent_le {m₁ m₂ : Nat} (e₁ e₂ : Int) (h₁ : 0 < m₁) (h₂ : 0 < m₂) :
  quotientExponent m₁ e₁ m₂ e₂ ≤ max
    (totalExponent (dividend m₁ e₁ m₂ e₂ / m₂) (quotientExponent m₁ e₁ m₂ e₂) - 53) (-1074)
  := by
  have hdividend := log2_dividend h₁ e₁ m₂ e₂
  have hlow := log2_le_log2_div_add_log2 (dividend_ne_zero h₁ e₁ m₂ e₂) (Nat.ne_of_gt h₂)
  generalize dividend m₁ e₁ m₂ e₂ / m₂ = q at hlow ⊢
  generalize he : quotientExponent m₁ e₁ m₂ e₂ = e at hdividend ⊢
  rw [quotientExponent, totalExponent_eq, totalExponent_eq] at he
  rw [totalExponent_eq]
  omega

/-- A quotient is finite unless the number's leading digit lies too far above the divisor's. -/
theorem div_canonical (s₁ s₂ : Sign) {m₁ m₂ : Nat} {e₁ e₂ : Int} (h₁ : 0 < m₁) (h₂ : 0 < m₂)
    (htotal : totalExponent m₁ e₁ - totalExponent m₂ e₂ ≤ 1022) :
  div Format.binary64 (.finite s₁ m₁ e₁ h₁) (.finite s₂ m₂ e₂ h₂) = .zero (s₁ / s₂) ∨
    ∃ m e h, Canonical m e ∧ e ≤ 971 ∧
      div Format.binary64 (.finite s₁ m₁ e₁ h₁) (.finite s₂ m₂ e₂ h₂) = .finite (s₁ / s₂) m e h
  := by
  have hdividend := log2_dividend h₁ e₁ m₂ e₂
  have hhigh : dividend m₁ e₁ m₂ e₂ / m₂ = 0 ∨
      (dividend m₁ e₁ m₂ e₂ / m₂).log2 + m₂.log2 ≤ (dividend m₁ e₁ m₂ e₂).log2 := by
    by_cases hq : dividend m₁ e₁ m₂ e₂ / m₂ = 0
    · left
      apply hq
    · right
      apply log2_div_add_log2_le (Nat.ne_of_gt h₂) hq
  have hzero := Nat.log2_zero
  have hcanonical := roundWithAccuracy_canonical (s₁ / s₂)
    (accuracyOfFraction (dividend m₁ e₁ m₂ e₂ % m₂) m₂) (quotientExponent_le e₁ e₂ h₁ h₂)
  rw [div_finite]
  generalize hq : dividend m₁ e₁ m₂ e₂ / m₂ = q at hhigh hcanonical ⊢
  generalize he : quotientExponent m₁ e₁ m₂ e₂ = e at hdividend hcanonical ⊢
  rw [quotientExponent] at he
  rw [totalExponent_eq, totalExponent_eq] at he htotal
  rw [totalExponent_eq] at hcanonical
  obtain ⟨_, hround⟩ | ⟨m', e', h', hc, _, he', hround⟩ := hcanonical
  · left
    apply hround
  · right
    use m', e', h', hc
    refine ⟨?_, hround⟩
    obtain rfl | hhigh := hhigh <;> omega

/-- Division by one changes nothing. -/
theorem div_one (s : Sign) {m : Nat} {e : Int} (hc : Canonical m e) :
  div Format.binary64 (.finite s m e hc.pos)
    (.finite .positive (2 ^ 52) (-52) (Nat.two_pow_pos 52)) = .finite s m e hc.pos
  := by
  have hexponent := hc.exponent_eq
  rw [totalExponent_eq] at hexponent
  -- The quotient is computed with the digits that are there, and a zero after them or none.
  obtain ⟨k, hk⟩ : ∃ k : Nat, quotientExponent m e (2 ^ 52) (-52) = e - k := by
    use (e - quotientExponent m e (2 ^ 52) (-52)).toNat
    rw [quotientExponent, totalExponent_eq, totalExponent_eq, Nat.log2_two_pow]
    omega
  have hdividend : dividend m e (2 ^ 52) (-52) = m <<< k * 2 ^ 52 := by
    have hshift : (e - -52 - (e - (k : Int))).toNat = k + 52 := by omega
    rw [dividend, hk, hshift, Nat.shiftLeft_add, Nat.shiftLeft_eq (m <<< k)]
  have hsign : s / .positive = s := by cases s <;> rfl
  rw [div_finite, hk, hdividend, Nat.mul_div_cancel _ (Nat.two_pow_pos 52), Nat.mul_mod_left,
    hsign]
  apply roundWithAccuracy_shiftLeft s hc

end QuotaShare.Binary64
