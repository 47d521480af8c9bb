import QuotaShare.Proofs.Float.Share

/-!
# Quotients that vanish

When nothing is left of a quotient of floating-point numbers.  Rounding to the nearest number, and
to the even one of two that are as near, takes a quotient to zero exactly if it is at most half of
the least positive number.
-/

namespace QuotaShare.Binary64

open Float.Model Float.Model.UnpackedFloat

/-! ### Rounding to zero -/

/-- Whether a mantissa, with the digits after it, is at most a whole number. -/
def AtMost (em : ExtendedMantissa) (n : Nat) : Prop :=
  em.mantissa < n ∨ em.mantissa = n ∧ em.roundBit = false ∧ em.stickyBit = false

theorem atMost_shiftRightOne (em : ExtendedMantissa) (n : Nat) :
  AtMost em.shiftRightOne n ↔ AtMost em (2 * n)
  := by
  obtain ⟨m, round, sticky⟩ := em
  cases round <;> cases sticky <;> simp [AtMost, ExtendedMantissa.shiftRightOne] <;> omega

theorem atMost_shiftRight (em : ExtendedMantissa) (k n : Nat) :
  AtMost (em >>> k) n ↔ AtMost em (2 ^ k * n)
  := by
  induction k generalizing n with
  | zero =>
      rw [Nat.pow_zero, Nat.one_mul]
      rfl
  | succ k ih => rw [shiftRight_succ, atMost_shiftRightOne, ih, Nat.pow_succ, Nat.mul_assoc]

/-- A mantissa is rounded to zero when there are only digits after it, and those make up at most a
half. -/
theorem roundedMantissa_eq_zero_iff (em : ExtendedMantissa) :
  em.roundedMantissa = 0 ↔ em.mantissa = 0 ∧ (em.roundBit = true → em.stickyBit = false)
  := by
  obtain ⟨m, round, sticky⟩ := em
  cases round <;> cases sticky <;>
    simp [ExtendedMantissa.roundedMantissa, ExtendedMantissa.accuracy, Accuracy.roundToNearestEven]
  omega

theorem roundedMantissa_shiftRightOne_eq_zero_iff (em : ExtendedMantissa) :
  em.shiftRightOne.roundedMantissa = 0 ↔ AtMost em 1
  := by
  rw [roundedMantissa_eq_zero_iff]
  obtain ⟨m, round, sticky⟩ := em
  cases round <;> cases sticky <;> simp [AtMost, ExtendedMantissa.shiftRightOne] <;> omega

section

variable {m n : Nat}

theorem bits_fraction_eq_false_iff (q r n : Nat) :
  (ExtendedMantissa.ofMantissaAndAccuracy q (accuracyOfFraction r n)).roundBit = false ∧
    (ExtendedMantissa.ofMantissaAndAccuracy q (accuracyOfFraction r n)).stickyBit = false ↔ r = 0
  := by
  rw [accuracyOfFraction]
  split
  · rename_i hr
    exact iff_of_true ⟨rfl, rfl⟩ hr
  · rename_i hr
    cases compare (2 * r) n <;> simp [ExtendedMantissa.ofMantissaAndAccuracy, hr]

theorem bits_fraction_imp_iff (q r n : Nat) :
  ((ExtendedMantissa.ofMantissaAndAccuracy q (accuracyOfFraction r n)).roundBit = true →
    (ExtendedMantissa.ofMantissaAndAccuracy q (accuracyOfFraction r n)).stickyBit = false) ↔
      2 * r ≤ n
  := by
  rw [accuracyOfFraction]
  split
  · rename_i hr
    apply iff_of_true nofun
    rw [hr]
    apply Nat.zero_le
  · rw [← Nat.isLE_compare]
    cases compare (2 * r) n <;> simp [ExtendedMantissa.ofMantissaAndAccuracy]

theorem atMost_fraction (hn : 0 < n) (k : Nat) :
  AtMost (.ofMantissaAndAccuracy (m / n) (accuracyOfFraction (m % n) n)) k ↔ m ≤ k * n
  := by
  rw [AtMost, bits_fraction_eq_false_iff, mantissa_ofMantissaAndAccuracy, Nat.div_lt_iff_lt_mul hn,
    Nat.le_iff_lt_or_eq]
  apply or_congr_right
  constructor
  · rintro ⟨rfl, hr⟩
    rw [Nat.div_mul_cancel (Nat.dvd_of_mod_eq_zero hr)]
  · rintro rfl
    exact ⟨Nat.mul_div_cancel k hn, Nat.mul_mod_left k n⟩

theorem roundedMantissa_fraction_eq_zero_iff (hn : 0 < n) :
  (ExtendedMantissa.ofMantissaAndAccuracy (m / n)
    (accuracyOfFraction (m % n) n)).roundedMantissa = 0 ↔ 2 * m ≤ n
  := by
  rw [roundedMantissa_eq_zero_iff, bits_fraction_imp_iff, mantissa_ofMantissaAndAccuracy]
  constructor
  · rintro ⟨hq, hr⟩
    rw [Nat.mod_eq_of_lt (Nat.lt_of_div_eq_zero hn hq)] at hr
    apply hr
  · intro h
    have hlt : m < n := by omega
    rw [Nat.mod_eq_of_lt hlt]
    exact ⟨Nat.div_eq_of_lt hlt, h⟩

/-- A fraction is rounded to zero exactly if it is at most a half of the last digit that is kept. -/
theorem rounded_fraction_eq_zero_iff (hn : 0 < n) (e : Int) :
  rounded (m / n) e (accuracyOfFraction (m % n) n) = 0 ↔ 2 * m ≤ 2 ^ excess (m / n) e * n
  := by
  rw [rounded]
  cases excess (m / n) e with
  | zero =>
      rw [Nat.pow_zero, Nat.one_mul]
      apply roundedMantissa_fraction_eq_zero_iff hn
  | succ k =>
      rw [shiftRight_succ, roundedMantissa_shiftRightOne_eq_zero_iff, atMost_shiftRight, Nat.mul_one,
        atMost_fraction hn, Nat.pow_succ, Nat.mul_comm _ 2, Nat.mul_assoc]
      apply (Nat.mul_le_mul_left_iff (by decide)).symm

end

/-- What is rounded to no digits at all becomes zero, and nothing else does. -/
theorem roundWithAccuracy_eq_zero_iff (s : Sign) (m : Nat) (e : Int) (a : Accuracy) :
  roundWithAccuracy Format.binary64 s m e a = .zero s ↔ rounded m e a = 0
  := by
  obtain hlt | heq := Nat.lt_or_eq_of_le (rounded_le m e a)
  · rw [roundWithAccuracy_of_lt s hlt]
    split
    · rename_i h
      exact iff_of_true rfl h
    · rename_i h
      exact iff_of_false nofun h
  · rw [roundWithAccuracy_of_eq s heq, heq]
    exact iff_of_false nofun (Nat.ne_of_gt (Nat.two_pow_pos 53))

/-! ### Quotients -/

/-- A comparison holds again when the left side gains a smaller power than the right one. -/
theorem mul_two_pow_le_of_le {m n a b c d : Nat} (h : m * 2 ^ c ≤ n * 2 ^ d) (hle : a + d ≤ b + c) :
  m * 2 ^ a ≤ n * 2 ^ b
  := by
  apply Nat.le_of_mul_le_mul_right _ (Nat.two_pow_pos d)
  calc
    m * 2 ^ a * 2 ^ d = m * 2 ^ (a + d) := by rw [Nat.mul_assoc, Nat.pow_add]
    _ ≤ m * 2 ^ (b + c) := Nat.mul_le_mul_left m (Nat.pow_le_pow_right (by decide) hle)
    _ = m * 2 ^ c * 2 ^ b := by rw [Nat.mul_assoc, ← Nat.pow_add, Nat.add_comm]
    _ ≤ n * 2 ^ d * 2 ^ b := Nat.mul_le_mul_right _ h
    _ = n * 2 ^ b * 2 ^ d := Nat.mul_right_comm ..

/-- How many times the least positive number is contained in a mantissa at an exponent. -/
def units (m : Nat) (e : Int) : Nat :=
  m * 2 ^ (e + 1074).toNat

theorem units_pos {m : Nat} (hm : 0 < m) (e : Int) :
  0 < units m e
  := Nat.mul_pos hm (Nat.two_pow_pos _)

/-- A quotient vanishes exactly if it is at most a half of the least positive number. -/
theorem div_eq_zero_iff (s₁ s₂ : Sign) {m₁ m₂ : Nat} {e₁ e₂ : Int} (h₁ : 0 < m₁) (h₂ : 0 < m₂)
    (he₁ : -1074 ≤ e₁) (he₂ : -1074 ≤ e₂) :
  div Format.binary64 (.finite s₁ m₁ e₁ h₁) (.finite s₂ m₂ e₂ h₂) = .zero (s₁ / s₂) ↔
    2 * units m₁ e₁ * units 1 0 ≤ units m₂ e₂
  := by
  have hle := quotientExponent_le e₁ e₂ h₁ h₂
  have hzero := rounded_fraction_eq_zero_iff (m := dividend m₁ e₁ m₂ e₂) h₂
    (quotientExponent m₁ e₁ m₂ e₂)
  have hdividend : 2 * dividend m₁ e₁ m₂ e₂ =
      m₁ * 2 ^ ((e₁ - e₂ - quotientExponent m₁ e₁ m₂ e₂).toNat + 1) := by
    rw [dividend, Nat.shiftLeft_eq, Nat.pow_succ, ← Nat.mul_assoc m₁]
    apply Nat.mul_comm
  have hexponent : quotientExponent m₁ e₁ m₂ e₂ ≤ e₁ - e₂ := Int.min_le_left _ _
  have hunits : 2 * units m₁ e₁ * units 1 0 =
      m₁ * 2 ^ ((e₁ + 1074).toNat + 1 + (0 + 1074 : Int).toNat) := by
    rw [units, units, Nat.one_mul, Nat.pow_add, Nat.pow_succ, ← Nat.mul_assoc m₁,
      ← Nat.mul_assoc m₁, Nat.mul_comm 2]
  rw [hdividend, Nat.mul_comm _ m₂] at hzero
  rw [div_finite, roundWithAccuracy_eq_zero_iff, hunits, units]
  constructor
  · intro h
    -- Nothing vanishes but what is rounded at the least exponent.
    have hsmall := (le_rounded (accuracyOfFraction (dividend m₁ e₁ m₂ e₂ % m₂) m₂) hle).resolve_left
      (by rw [h]; decide)
    have hadd := add_excess hle
    apply mul_two_pow_le_of_le (hzero.mp h)
    omega
  · intro h
    have hadd := le_add_excess (dividend m₁ e₁ m₂ e₂ / m₂) (quotientExponent m₁ e₁ m₂ e₂)
    apply hzero.mpr
    apply mul_two_pow_le_of_le h
    omega

end QuotaShare.Binary64

namespace QuotaShare

open Float.Model Float.Model.UnpackedFloat Binary64

/-! ### Shares -/

/-- How many times the least positive number is contained in a usable one. -/
def leastParts (x : Float) : Nat :=
  match x.toModel.unpack with
  | .finite .positive m e _ => units m e
  | _ => 0

/-- A count that fits a mantissa is exact as a floating-point number. -/
theorem unpack_ofNat_of_lt {n : Nat} (hn : 1 ≤ n) (hlt : n < 2 ^ 53) :
  ∃ m e h, (Scalar.ofNat n : Float).toModel.unpack = .finite .positive m e h ∧ -1074 ≤ e ∧
    units m e = n * units 1 0
  := by
  have hne : n ≠ 0 := Nat.ne_of_gt hn
  have hlog : n.log2 < 53 := (Nat.log2_lt hne).mpr hlt
  obtain ⟨k, hk, hmodel⟩ := toModel_ofNat hne
  -- The mantissa is the count with as many digits as fit, and more digits make no difference.
  obtain ⟨j, hj⟩ : ∃ j, n.log2 + j = 52 := ⟨52 - n.log2, by omega⟩
  have hc : Canonical (n <<< j) (-j) := by
    have hlow : 2 ^ 52 ≤ n <<< j := by
      rw [← hj, Nat.pow_add, Nat.shiftLeft_eq]
      apply Nat.mul_le_mul_right _ (Nat.log2_self_le hne)
    have hhigh : n <<< j < 2 ^ 53 := by
      have hsum : n.log2 + 1 + j = 53 := by omega
      rw [← hsum, Nat.pow_add, Nat.shiftLeft_eq]
      apply Nat.mul_lt_mul_of_pos_right Nat.lt_log2_self (Nat.two_pow_pos j)
    exact ⟨by omega, hhigh, by omega, .inl hlow⟩
  have hround := roundWithAccuracy_shiftLeft .positive hc (k - j)
  have hshift : j + (k - j) = k := by omega
  have hexponent : -(j : Int) - (k - j : Nat) = -k := by omega
  rw [← Nat.shiftLeft_add, hshift, hexponent] at hround
  use n <<< j, -j, hc.pos
  refine ⟨?_, hc.le_exponent, ?_⟩
  · rw [hmodel, hround]
    apply unpack_pack .positive hc
    omega
  · have hsum : j + (-(j : Int) + 1074).toNat = (0 + 1074 : Int).toNat := by omega
    rw [units, units, Nat.shiftLeft_eq, Nat.mul_assoc, ← Nat.pow_add, hsum, Nat.one_mul]

theorem beq_zero_of_usable {x : Float} (hx : Scalar.usable x = true) :
  (x == 0.0) = false
  := by
  apply Bool.eq_false_of_not_eq_true
  intro hbeq
  rw [eq_of_beq_of_usable hx hbeq] at hx
  cases hx.symm.trans (by decide +kernel : Scalar.usable (0.0 : Float) = false)

/-- Nothing is left of a share exactly if the rate is at most as many halves of the least positive
number as there are nodes. -/
theorem share_eq_zero_iff {x : Float} (hx : Scalar.usable x = true) {n : Nat} (hn : 1 ≤ n)
    (hlt : n < 2 ^ 53) :
  (share x n == 0.0) = true ↔ 2 * leastParts x ≤ n
  := by
  obtain ⟨m, e, h, hread⟩ := usable_iff.mp hx
  obtain ⟨hc, he⟩ := canonical_of_unpack hread
  obtain ⟨m₂, e₂, h₂, hcount, he₂, hunits⟩ := unpack_ofNat_of_lt hn hlt
  have hparts : leastParts x = units m e := by
    rw [leastParts, hread]
  have hdiv := div_eq_zero_iff .positive .positive h h₂ hc.le_exponent he₂
  rw [hunits, ← hparts, Nat.mul_le_mul_right_iff (units_pos Nat.one_pos 0)] at hdiv
  apply Iff.trans _ hdiv
  rw [share_eq, hread, ← hcount]
  obtain hvanish | ⟨m', e', h', hc', he', hfinite⟩ := div_ofNat hc he hn
  · rw [hvanish]
    exact iff_of_true rfl rfl
  · have husable : Scalar.usable (Float.ofModel (Float.Model.pack
        (.finite .positive m' e' h'))) = true :=
      usable_iff.mpr ⟨m', e', h', unpack_pack .positive hc' he'⟩
    rw [hfinite]
    apply iff_of_false _ nofun
    intro hbeq
    cases (beq_zero_of_usable husable).symm.trans hbeq

end QuotaShare
