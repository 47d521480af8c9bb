import Mathlib

/-!
# Rounding to floating-point numbers

Floating-point numbers of 64 bits as a mantissa and an exponent, and how a mantissa with too many
digits is rounded to one of them.  Rounding keeps the position of the leading digit or moves it up
by one, so it neither loses a number that is not too small nor makes one infinite that is not too
large.
-/

namespace QuotaShare.Binary64

open Float.Model Float.Model.UnpackedFloat

/-- The exponent of a number whose leading digit is at a given position. -/
theorem targetExponent_eq (total : Int) :
  Format.binary64.targetExponent total = max (total - 53) (-1074)
  := rfl

theorem totalExponent_eq (m : Nat) (e : Int) :
  totalExponent m e = m.log2 + 1 + e
  := rfl

/-! ### Shifting a mantissa -/

theorem shiftRight_succ (em : ExtendedMantissa) (k : Nat) :
  em >>> (k + 1) = (em >>> k).shiftRightOne
  := rfl

theorem mantissa_shiftRight (em : ExtendedMantissa) (k : Nat) :
  (em >>> k).mantissa = em.mantissa / 2 ^ k
  := by
  induction k with
  | zero => rw [Nat.pow_zero, Nat.div_one]; rfl
  | succ k ih =>
      rw [shiftRight_succ, ExtendedMantissa.shiftRightOne, ih, Nat.div_div_eq_div_mul,
        ← Nat.pow_succ]

/-- Shifting out zeros leaves no residue. -/
theorem shiftLeft_shiftRight (m k : Nat) :
  ExtendedMantissa.mk (m <<< k) false false >>> k = ⟨m, false, false⟩
  := by
  induction k generalizing m with
  | zero => rfl
  | succ k ih =>
      rw [shiftRight_succ, Nat.shiftLeft_succ_inside, ih, ExtendedMantissa.shiftRightOne,
        Nat.mul_div_cancel_left m (by decide), Nat.mul_mod_right]
      rfl

theorem le_roundedMantissa (em : ExtendedMantissa) :
  em.mantissa ≤ em.roundedMantissa
  := by
  obtain ⟨m, round, sticky⟩ := em
  cases round <;> cases sticky <;>
    simp only [ExtendedMantissa.roundedMantissa, ExtendedMantissa.accuracy,
      Accuracy.roundToNearestEven] <;> omega

theorem roundedMantissa_le (em : ExtendedMantissa) :
  em.roundedMantissa ≤ em.mantissa + 1
  := by
  obtain ⟨m, round, sticky⟩ := em
  cases round <;> cases sticky <;>
    simp only [ExtendedMantissa.roundedMantissa, ExtendedMantissa.accuracy,
      Accuracy.roundToNearestEven] <;> omega

theorem mantissa_ofMantissaAndAccuracy (m : Nat) (a : Accuracy) :
  (ExtendedMantissa.ofMantissaAndAccuracy m a).mantissa = m
  := by
  cases a with
  | exact => rfl
  | inexact o => cases o <;> rfl

/-! ### The two steps of rounding -/

/-- How many digits are shifted out at first. -/
def excess (m : Nat) (e : Int) : Nat :=
  (max (totalExponent m e - 53) (-1074) - e).toNat

/-- The mantissa that is left after the excess digits were rounded. -/
def rounded (m : Nat) (e : Int) (a : Accuracy) : Nat :=
  (ExtendedMantissa.ofMantissaAndAccuracy m a >>> excess m e).roundedMantissa

theorem shiftToTargetExponent_eq (m : Nat) (e : Int) (a : Accuracy) :
  shiftToTargetExponent Format.binary64 m e a =
    (ExtendedMantissa.ofMantissaAndAccuracy m a >>> excess m e, e + excess m e)
  := rfl

theorem div_le_rounded (m : Nat) (e : Int) (a : Accuracy) :
  m / 2 ^ excess m e ≤ rounded m e a
  := by
  have h := le_roundedMantissa (ExtendedMantissa.ofMantissaAndAccuracy m a >>> excess m e)
  rw [mantissa_shiftRight, mantissa_ofMantissaAndAccuracy] at h
  apply h

theorem rounded_le_div (m : Nat) (e : Int) (a : Accuracy) :
  rounded m e a ≤ m / 2 ^ excess m e + 1
  := by
  have h := roundedMantissa_le (ExtendedMantissa.ofMantissaAndAccuracy m a >>> excess m e)
  rw [mantissa_shiftRight, mantissa_ofMantissaAndAccuracy] at h
  apply h

/-- The digits that are left after the excess digits were shifted out. -/
theorem div_excess_lt (m : Nat) (e : Int) :
  m / 2 ^ excess m e < 2 ^ 53
  := by
  rw [Nat.div_lt_iff_lt_mul (Nat.two_pow_pos _), ← Nat.pow_add]
  have hlog := Nat.lt_log2_self (n := m)
  have hexcess : m.log2 + 1 ≤ 53 + excess m e := by
    rw [excess, totalExponent_eq]
    omega
  apply Nat.lt_of_lt_of_le hlog (Nat.pow_le_pow_right (by decide) hexcess)

theorem rounded_le (m : Nat) (e : Int) (a : Accuracy) :
  rounded m e a ≤ 2 ^ 53
  := by
  have h := div_excess_lt m e
  have h' := rounded_le_div m e a
  omega

theorem log2_shiftLeft {m : Nat} (hm : m ≠ 0) (k : Nat) :
  (m <<< k).log2 = m.log2 + k
  := by
  induction k with
  | zero => rfl
  | succ k ih =>
      have hk : m <<< k ≠ 0 := by
        rw [Nat.shiftLeft_eq]
        apply Nat.mul_ne_zero hm (Nat.ne_of_gt (Nat.two_pow_pos k))
      rw [Nat.shiftLeft_succ, Nat.log2_two_mul hk, ih]
      rfl

/-- A mantissa that fits is not shifted any more. -/
theorem excess_eq_zero {r : Nat} (hr : r < 2 ^ 53) {e : Int} (he : -1074 ≤ e) :
  excess r e = 0
  := by
  have hlog : r.log2 < 53 := by
    cases r with
    | zero => rw [Nat.log2_zero]; decide
    | succ r => apply (Nat.log2_lt (Nat.succ_ne_zero r)).mpr hr
  rw [excess, totalExponent_eq]
  omega

theorem le_add_excess (m : Nat) (e : Int) :
  -1074 ≤ e + excess m e
  := by
  rw [excess]
  omega

theorem roundWithAccuracy_eq (s : Sign) (m : Nat) (e : Int) (a : Accuracy) :
  roundWithAccuracy Format.binary64 s m e a =
    if h : (shiftToTargetExponent Format.binary64 (rounded m e a) (e + excess m e)
        .exact).1.mantissa = 0 then .zero s
    else .finite s _
      (shiftToTargetExponent Format.binary64 (rounded m e a) (e + excess m e) .exact).2
      (Nat.pos_of_ne_zero h)
  := rfl

/-- Rounding of a number that is rounded to a mantissa that fits. -/
theorem roundWithAccuracy_of_lt (s : Sign) {m : Nat} {e : Int} {a : Accuracy}
    (hlt : rounded m e a < 2 ^ 53) :
  roundWithAccuracy Format.binary64 s m e a =
    if h : rounded m e a = 0 then .zero s
    else .finite s (rounded m e a) (e + excess m e) (Nat.pos_of_ne_zero h)
  := by
  have hshift : shiftToTargetExponent Format.binary64 (rounded m e a) (e + excess m e) .exact =
      (⟨rounded m e a, false, false⟩, e + excess m e) := by
    rw [shiftToTargetExponent_eq, excess_eq_zero hlt (le_add_excess m e), Int.ofNat_zero,
      Int.add_zero]
    rfl
  rw [roundWithAccuracy_eq]
  simp only [hshift]

/-- Rounding of a number that is rounded to one digit too many. -/
theorem roundWithAccuracy_of_eq (s : Sign) {m : Nat} {e : Int} {a : Accuracy}
    (heq : rounded m e a = 2 ^ 53) :
  roundWithAccuracy Format.binary64 s m e a =
    .finite s (2 ^ 52) (e + excess m e + 1) (Nat.two_pow_pos 52)
  := by
  have hexcess : excess (2 ^ 53) (e + excess m e) = 1 := by
    have h := le_add_excess m e
    rw [excess, totalExponent_eq, Nat.log2_two_pow]
    omega
  have hshift : shiftToTargetExponent Format.binary64 (rounded m e a) (e + excess m e) .exact =
      (⟨2 ^ 52, false, false⟩, e + excess m e + 1) := by
    rw [shiftToTargetExponent_eq, heq, hexcess]
    rfl
  rw [roundWithAccuracy_eq]
  simp only [hshift]
  rfl

/-! ### What rounding keeps -/

/-- The mantissa and the exponent of a number in the only form that comparisons expect: it has as
many digits as fit, unless it has the least exponent. -/
structure Canonical (m : Nat) (e : Int) : Prop where
  pos : 0 < m
  mantissa_lt : m < 2 ^ 53
  le_exponent : -1074 ≤ e
  full : 2 ^ 52 ≤ m ∨ e = -1074

/-- The exponent that a canonical number with its leading digit at a given position has. -/
theorem Canonical.exponent_eq {m : Nat} {e : Int} (h : Canonical m e) :
  max (totalExponent m e - 53) (-1074) = e
  := by
  have hlog : m.log2 < 53 := (Nat.log2_lt (Nat.ne_of_gt h.pos)).mpr h.mantissa_lt
  have hle := h.le_exponent
  rw [totalExponent_eq]
  obtain hm | he := h.full
  · have hlog' : 52 ≤ m.log2 := (Nat.le_log2 (Nat.ne_of_gt h.pos)).mpr hm
    omega
  · omega

/-- A number with enough digits ends up at the exponent of its leading digit. -/
theorem add_excess {m : Nat} {e : Int} (he : e ≤ max (totalExponent m e - 53) (-1074)) :
  e + excess m e = max (totalExponent m e - 53) (-1074)
  := by
  rw [excess]
  omega

theorem le_rounded {m : Nat} {e : Int} (a : Accuracy)
    (he : e ≤ max (totalExponent m e - 53) (-1074)) :
  2 ^ 52 ≤ rounded m e a ∨ totalExponent m e < -1021
  := by
  have hadd := add_excess he
  by_cases htotal : totalExponent m e < -1021
  · exact .inr htotal
  · have hlog : 52 + excess m e = m.log2 := by
      rw [totalExponent_eq] at hadd htotal
      omega
    have hm : m ≠ 0 := by
      intro hm
      rw [hm, Nat.log2_zero] at hlog
      omega
    left
    apply Nat.le_trans _ (div_le_rounded m e a)
    rw [Nat.le_div_iff_mul_le (Nat.two_pow_pos _), ← Nat.pow_add, hlog]
    apply Nat.log2_self_le hm

/-- Rounding gives a canonical number at the exponent of the leading digit or the next one, unless
nothing is left of a number that is too small. -/
theorem roundWithAccuracy_canonical (s : Sign) {m : Nat} {e : Int} (a : Accuracy)
    (he : e ≤ max (totalExponent m e - 53) (-1074)) :
  (totalExponent m e < -1021 ∧ roundWithAccuracy Format.binary64 s m e a = .zero s) ∨
    ∃ m' e' h, Canonical m' e' ∧ max (totalExponent m e - 53) (-1074) ≤ e' ∧
      e' ≤ max (totalExponent m e - 53) (-1074) + 1 ∧
      roundWithAccuracy Format.binary64 s m e a = .finite s m' e' h
  := by
  have hadd := add_excess he
  have hle := le_rounded a he
  obtain hlt | heq := Nat.lt_or_eq_of_le (rounded_le m e a)
  · rw [roundWithAccuracy_of_lt s hlt, hadd]
    by_cases h : rounded m e a = 0
    · left
      rw [dif_pos h]
      exact ⟨by omega, rfl⟩
    · right
      have hpos := Nat.pos_of_ne_zero h
      rw [dif_neg h]
      use rounded m e a, max (totalExponent m e - 53) (-1074), hpos,
        ⟨hpos, hlt, Int.le_max_right _ _, by omega⟩
      exact ⟨by omega, by omega, rfl⟩
  · right
    rw [roundWithAccuracy_of_eq s heq, hadd]
    use 2 ^ 52, max (totalExponent m e - 53) (-1074) + 1, Nat.two_pow_pos 52,
      ⟨Nat.two_pow_pos 52, by decide, by omega, .inl (Nat.le_refl _)⟩
    exact ⟨by omega, by omega, rfl⟩

/-- Rounding a canonical number to which digits were added gives the number. -/
theorem roundWithAccuracy_shiftLeft (s : Sign) {m : Nat} {e : Int} (h : Canonical m e) (k : Nat) :
  roundWithAccuracy Format.binary64 s (m <<< k) (e - k) .exact = .finite s m e h.pos
  := by
  have hexcess : excess (m <<< k) (e - k) = k := by
    have hexponent := h.exponent_eq
    rw [totalExponent_eq] at hexponent
    rw [excess, totalExponent_eq, log2_shiftLeft (Nat.ne_of_gt h.pos)]
    omega
  have hrounded : rounded (m <<< k) (e - k) .exact = m := by
    rw [rounded, hexcess, ExtendedMantissa.ofMantissaAndAccuracy, shiftLeft_shiftRight]
    rfl
  have hround := roundWithAccuracy_of_lt s (by rw [hrounded]; exact h.mantissa_lt)
  rw [hround, hexcess]
  simp only [hrounded, dif_neg (Nat.ne_of_gt h.pos), Int.sub_add_cancel]

end QuotaShare.Binary64
