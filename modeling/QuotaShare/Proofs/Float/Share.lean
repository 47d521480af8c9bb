import QuotaShare.Proofs.Float.Division
import QuotaShare.Scalar

/-!
# Shares of a rate

The part of a usable rate that falls to each of a number of nodes.  It is usable again unless it is
so small that nothing is left of it.
-/

namespace QuotaShare

open Float.Model Float.Model.UnpackedFloat Binary64

/-! ### Counts -/

theorem toModel_ofNat {n : Nat} (hn : n ≠ 0) :
  ∃ k : Nat, 52 ≤ n.log2 + k ∧ (Scalar.ofNat n : Float).toModel =
    Float.Model.pack (roundWithAccuracy Format.binary64 .positive (n <<< k) (-k) .exact)
  := by
  by_cases hword : n < 18446744073709551616
  · use (52 - n.log2 : Int).toNat
    refine ⟨by omega, ?_⟩
    have htoNat : n.toUInt64.toNat = n := Nat.mod_eq_of_lt hword
    have hcompare : compare (n : Int) 0 = .gt := Int.compare_eq_gt.mpr (by omega)
    have htarget : ((0 : Int) - max (totalExponent n 0 - 53) (-1074)).toNat =
        (52 - n.log2 : Int).toNat := by
      rw [totalExponent_eq]
      omega
    have hround : UnpackedFloat.round Format.binary64 .positive n 0 = roundWithAccuracy
        Format.binary64 .positive (n <<< (52 - n.log2 : Int).toNat) (-(52 - n.log2 : Int).toNat)
        .exact := by
      rw [UnpackedFloat.round, targetExponent_eq, decreaseExponent, htarget, Int.zero_sub]
    have hnormalize : UnpackedFloat.normalize Format.binary64 n.toUInt64.toNat 0 .positive =
        UnpackedFloat.round Format.binary64 .positive n 0 := by
      rw [htoNat, UnpackedFloat.normalize, hcompare]
      rfl
    change (if n < 18446744073709551616 then n.toUInt64.toFloat
      else Float.ofScientific n false 0).toModel = _
    rw [if_pos hword, ← hround, ← hnormalize]
    rfl
  · use 53
    refine ⟨by omega, ?_⟩
    change (if n < 18446744073709551616 then n.toUInt64.toFloat
      else Float.ofScientific n false 0).toModel = _
    rw [if_neg hword, Float.ofScientific, dif_neg (by omega)]
    change Float.Model.pack (UnpackedFloat.ofScientific Format.binary64 n 0) = _
    have hsafe : ¬ (0 : Int) < -((2 ^ 11 : Int) + n.log2) := by omega
    rw [UnpackedFloat.ofScientific, dif_neg hn, if_neg (by decide), if_neg hsafe,
      if_pos (Int.le_refl 0)]
    change Float.Model.pack
      (roundWithAccuracy Format.binary64 .positive (n <<< 53 * 1) (-53) .exact) = _
    rw [Nat.mul_one]
    rfl

/-- A count is infinite as a floating-point number, or has its leading digit where the count has it
or one position above. -/
theorem unpack_ofNat {n : Nat} (hn : n ≠ 0) :
  (Scalar.ofNat n : Float).toModel.unpack = .infinity .positive ∨
    ∃ m e h, (n.log2 + 1 : Int) ≤ totalExponent m e ∧
      (Scalar.ofNat n : Float).toModel.unpack = .finite .positive m e h
  := by
  obtain ⟨k, hk, hmodel⟩ := toModel_ofNat hn
  have htotal : totalExponent (n <<< k) (-k) = n.log2 + 1 := by
    rw [totalExponent_eq, log2_shiftLeft hn]
    omega
  have hcanonical := roundWithAccuracy_canonical .positive .exact
    (show -k ≤ max (totalExponent (n <<< k) (-k) - 53) (-1074) by omega)
  rw [htotal] at hcanonical
  obtain ⟨hsmall, _⟩ | ⟨m, e, _, hc, he, _, hround⟩ := hcanonical
  · omega
  · rw [hmodel, hround]
    obtain hread | hread := unpack_pack_or .positive hc
    · right
      use m, e, hc.pos
      refine ⟨?_, hread⟩
      have hexponent := hc.exponent_eq
      omega
    · left
      apply hread

/-! ### Usable rates -/

theorem decide_lt (x y : Float) :
  decide (x < y) = x.toModel.unpack.lt y.toModel.unpack
  := by
  change decide (decide (x.toModel.unpack.lt y.toModel.unpack = true) = true) = _
  simp only [Bool.decide_eq_true]

/-- The usable rates are the finite numbers with a positive sign. -/
theorem usable_iff {x : Float} :
  Scalar.usable x = true ↔ ∃ m e h, x.toModel.unpack = .finite .positive m e h
  := by
  have hzero : (0.0 : Float).toModel.unpack = .zero .positive := rfl
  change (x.toModel.unpack.isFinite && decide (0.0 < x)) = true ↔ _
  rw [decide_lt, hzero]
  generalize x.toModel.unpack = u
  cases u with
  | infinity s => simp [UnpackedFloat.isFinite]
  | notANumber => simp [UnpackedFloat.isFinite]
  | zero s => simp [UnpackedFloat.lt, UnpackedFloat.compare]
  | finite s m e h =>
      cases s with
      | negative => simp [UnpackedFloat.lt, UnpackedFloat.compare]
      | positive => simp [UnpackedFloat.isFinite, UnpackedFloat.lt, UnpackedFloat.compare, h]

/-- Usable rates that compare equal are equal: the two zeros are not usable. -/
theorem eq_of_beq_of_usable {x y : Float} (hx : Scalar.usable x = true) (h : (x == y) = true) :
  x = y
  := by
  obtain ⟨_, _, heq | ⟨rfl, _⟩ | ⟨rfl, _⟩⟩ := Float.beq_iff_ne_nan_and_eq.mp h
  · apply heq
  · cases hx.symm.trans (by decide +kernel : Scalar.usable (0 : Float) = false)
  · cases hx.symm.trans (by decide +kernel : Scalar.usable (-0 : Float) = false)

/-- Usable rates compare equal exactly when they are equal. -/
theorem beq_iff_eq_of_usable {x y : Float} (hx : Scalar.usable x = true) :
  (x == y) = true ↔ x = y
  := by
  constructor
  · apply eq_of_beq_of_usable hx
  · rintro rfl
    apply Float.beq_self_iff.mpr
    rintro rfl
    cases hx.symm.trans (by decide +kernel : Scalar.usable Float.nan = false)

/-- A usable number leaves nothing when it is taken from itself. -/
theorem sub_self_of_usable {x : Float} (hx : Scalar.usable x = true) :
  x - x = 0.0
  := by
  obtain ⟨m, e, h, hread⟩ := usable_iff.mp hx
  have hsub : UnpackedFloat.sub Format.binary64 (.finite .positive m e h)
      (.finite .positive m e h) = .zero .positive := by
    simp only [UnpackedFloat.sub, Int.sub_self]
    rfl
  change Float.ofModel (Float.Model.pack
    (UnpackedFloat.sub Format.binary64 x.toModel.unpack x.toModel.unpack)) = _
  rw [hread, hsub]
  rfl

/-- A number that is not negative is not below zero. -/
theorem not_lt_zero_of_le {x : Float} (hx : 0.0 ≤ x) :
  ¬ x < 0.0
  := by
  have hzero : (0.0 : Float).toModel.unpack = .zero .positive := rfl
  change decide ((0.0 : Float).toModel.unpack.le x.toModel.unpack = true) = true at hx
  rw [decide_eq_true_iff, hzero] at hx
  apply of_decide_eq_false
  rw [decide_lt, hzero]
  generalize x.toModel.unpack = u at hx ⊢
  cases u with
  | notANumber => rfl
  | zero s => rfl
  | infinity s =>
      cases s with
      | positive => rfl
      | negative => cases hx
  | finite s m e h =>
      cases s with
      | positive => rfl
      | negative => cases hx

/-- Numbers that differ by more than is tolerated are different. -/
theorem ne_of_lt_abs_sub {epsilon x y : Float} (hepsilon : 0.0 ≤ epsilon)
    (hx : Scalar.usable x = true) (h : epsilon < (x - y).abs) :
  x ≠ y
  := by
  rintro rfl
  rw [sub_self_of_usable hx] at h
  apply not_lt_zero_of_le hepsilon h

/-! ### Shares -/

theorem share_eq (x : Float) (n : Nat) :
  share x n = Float.ofModel (Float.Model.pack
    (UnpackedFloat.div Format.binary64 x.toModel.unpack (Scalar.ofNat n : Float).toModel.unpack))
  := rfl

/-- A part of a canonical number that is not too large is of the same kind, unless nothing is left of
it. -/
theorem div_ofNat {m : Nat} {e : Int} (hc : Canonical m e) (he : e ≤ 971) {n : Nat} (hn : 1 ≤ n) :
  div Format.binary64 (.finite .positive m e hc.pos) (Scalar.ofNat n : Float).toModel.unpack =
      .zero .positive ∨
    ∃ m' e' h', Canonical m' e' ∧ e' ≤ 971 ∧
      div Format.binary64 (.finite .positive m e hc.pos)
        (Scalar.ofNat n : Float).toModel.unpack = .finite .positive m' e' h'
  := by
  obtain rfl | htwo := Nat.eq_or_lt_of_le hn
  · right
    have hone : (Scalar.ofNat 1 : Float).toModel.unpack =
      .finite .positive (2 ^ 52) (-52) (Nat.two_pow_pos 52) := rfl
    rw [hone, div_one .positive hc]
    use m, e, hc.pos, hc, he
  · obtain hinf | ⟨m₂, e₂, h₂, htotal, hfin⟩ := unpack_ofNat (Nat.ne_of_gt hn)
    · left
      rw [hinf]
      rfl
    · have hlog : 1 ≤ n.log2 := (Nat.le_log2 (Nat.ne_of_gt hn)).mpr htwo
      have hexponent := hc.exponent_eq
      rw [hfin]
      apply div_canonical .positive .positive hc.pos h₂
      omega

/-- A part of a usable rate is usable, unless nothing is left of it. -/
theorem share_eq_zero_or_usable {x : Float} (hx : Scalar.usable x = true) {n : Nat} (hn : 1 ≤ n) :
  (share x n == 0.0) = true ∨ Scalar.usable (share x n) = true
  := by
  obtain ⟨m, e, h, hread⟩ := usable_iff.mp hx
  obtain ⟨hc, he⟩ := canonical_of_unpack hread
  rw [share_eq, hread]
  obtain hdiv | ⟨m', e', h', hc', he', hdiv⟩ := div_ofNat hc he hn
  · left
    rw [hdiv]
    rfl
  · right
    rw [hdiv]
    apply usable_iff.mpr
    use m', e', h'
    apply unpack_pack .positive hc' he'

end QuotaShare
