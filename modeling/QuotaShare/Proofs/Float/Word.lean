import QuotaShare.Proofs.Float.Packing
import QuotaShare.Scalar

/-!
# Floating-point numbers cut off to words

A floating-point number that is cut off to a word stops at the largest word.  It does so exactly when
it is at least two to the power of 64, since all smaller numbers stay well below the largest word.
-/

namespace QuotaShare

open Float.Model Float.Model.UnpackedFloat Binary64

/-! ### Numbers without their fraction -/

/-- What is left of a number without its fraction. -/
theorem roundToInt_eq (s : Sign) (m : Nat) (e : Int) :
  roundToInt s m e = s.apply (m <<< e.toNat / 2 ^ (-e).toNat : Nat)
  := by
  have hleft : (e - 0).toNat = e.toNat := by omega
  have hright : (0 - (e - ((e - 0).toNat : Int))).toNat = (-e).toNat := by omega
  change s.apply ((ExtendedMantissa.ofMantissaAndAccuracy (m <<< (e - 0).toNat) .exact >>>
    (0 - (e - ((e - 0).toNat : Int))).toNat).mantissa : Nat) = _
  rw [mantissa_shiftRight, mantissa_ofMantissaAndAccuracy, hright, hleft]

/-- A number with a large exponent is too large for a word, and one with a smaller exponent is not even
near the largest word. -/
theorem roundToInt_cases {m : Nat} {e : Int} (hc : Canonical m e) :
  (12 ≤ e ∧ 18446744073709551616 ≤ (roundToInt .positive m e).toNat) ∨
    (e < 12 ∧ (roundToInt .positive m e).toNat < 18446744073709551615)
  := by
  rw [roundToInt_eq, Sign.apply, Int.toNat_natCast, Nat.shiftLeft_eq]
  by_cases he : 12 ≤ e
  · left
    use he
    have hfull : 2 ^ 52 ≤ m := hc.full.resolve_right (by omega)
    have hnone : (-e).toNat = 0 := by omega
    rw [hnone, Nat.pow_zero, Nat.div_one]
    calc
      18446744073709551616 = 2 ^ 52 * 2 ^ 12 := by decide
      _ ≤ m * 2 ^ e.toNat := Nat.mul_le_mul hfull (Nat.pow_le_pow_right (by decide) (by omega))
  · right
    use by omega
    have hlt := hc.mantissa_lt
    calc
      m * 2 ^ e.toNat / 2 ^ (-e).toNat ≤ m * 2 ^ e.toNat := Nat.div_le_self _ _
      _ ≤ (2 ^ 53 - 1) * 2 ^ 11 :=
        Nat.mul_le_mul (by omega) (Nat.pow_le_pow_right (by decide) (by omega))
      _ < 18446744073709551615 := by decide

/-! ### Numbers and words -/

/-- The number of a count that is a word is that of the word. -/
theorem ofNat_toNat (w : UInt64) :
  (Scalar.ofNat w.toNat : Float) = w.toFloat
  := by
  change (if w.toNat < 18446744073709551616 then w.toNat.toUInt64.toFloat
    else Float.ofScientific w.toNat false 0) = _
  rw [if_pos w.toNat_lt]
  congr 1
  apply UInt64.ofNat_toNat

theorem toUInt64_eq_last_iff_toInt (u : UnpackedFloat) :
  u.toUInt64 = Word.last ↔ 18446744073709551615 ≤ (u.toInt 0 18446744073709551615).toNat
  := by
  change UInt64.ofNatClamp (u.toInt 0 18446744073709551615).toNat = _ ↔ _
  rw [← UInt64.toNat_inj, Word.toNat_last, UInt64.ofNatClamp]
  split
  · rename_i h
    change (u.toInt 0 18446744073709551615).toNat = _ ↔ _
    change _ < 18446744073709551616 at h
    omega
  · rename_i h
    change 18446744073709551615 = _ ↔ _
    change ¬ _ < 18446744073709551616 at h
    omega

theorem le_iff_unpack (x y : Float) :
  x ≤ y ↔ x.toModel.unpack.le y.toModel.unpack = true
  := by
  change decide (x.toModel.unpack.le y.toModel.unpack = true) = true ↔ _
  rw [decide_eq_true_iff]

/-- A number is cut off to the largest word exactly when it is at least two to the power of 64. -/
theorem toUInt64_eq_last_iff (x : Float) :
  x.toUInt64 = Word.last ↔ 18446744073709551616.0 ≤ x
  := by
  have hread : (18446744073709551616.0 : Float).toModel.unpack =
    .finite .positive (2 ^ 52) 12 (Nat.two_pow_pos 52) := rfl
  change x.toModel.unpack.toUInt64 = Word.last ↔ _
  rw [le_iff_unpack, hread, toUInt64_eq_last_iff_toInt]
  cases hx : x.toModel.unpack with
  | notANumber => decide
  | infinity s => cases s <;> decide
  | zero s => cases s <;> decide
  | finite s m e h =>
      cases s with
      | negative =>
          change _ ≤ (roundToInt .negative m e).toNat ↔ false = true
          apply iff_of_false _ Bool.false_ne_true
          rw [roundToInt_eq, Sign.apply]
          generalize m <<< e.toNat / 2 ^ (-e).toNat = n
          omega
      | positive =>
          obtain ⟨hc, _⟩ := canonical_of_unpack hx
          change _ ≤ (roundToInt .positive m e).toNat ↔
            ((compare 12 e).then (compare (2 ^ 52) m)).isLE = true
          rw [Ordering.isLE_then_iff_and, Int.isLE_compare, Nat.isLE_compare]
          obtain ⟨he, hlarge⟩ | ⟨he, hsmall⟩ := roundToInt_cases hc
          · constructor
            · intro _
              exact ⟨he, .inr (hc.full.resolve_right (by omega))⟩
            · intro _
              omega
          · constructor
            · intro _
              omega
            · rintro ⟨hle, _⟩
              omega

end QuotaShare
