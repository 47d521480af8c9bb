import QuotaShare.Proofs.Float.Rounding

/-!
# Floating-point numbers as words

The words that stand for floating-point numbers.  A finite number is read from its word as a
canonical one, and each canonical number that is not too large is read again from the word that it
is written to.
-/

namespace QuotaShare.Binary64

open Float.Model Float.Model.UnpackedFloat

/-! ### The parts of a word -/

theorem toNat_one_append (mantissa : BitVec 52) :
  (1#1 ++ mantissa).toNat = 2 ^ 52 + mantissa.toNat
  := by
  rw [BitVec.toNat_append, ← Nat.shiftLeft_add_eq_or_of_lt mantissa.isLt]
  rfl

section

variable {b : BitVec Format.binary64.numBits}

/-- The number that is read from a word whose exponent is neither the least nor the highest. -/
theorem unpack_of_normal (hlast : unpackExponent b ≠ (-1#11)) (hzero : unpackExponent b ≠ 0#11) :
  ∃ h, UnpackedFloat.unpack Format.binary64 b = .finite (Sign.ofBitVec (unpackSign b))
    (2 ^ 52 + (unpackMantissa b).toNat) ((unpackExponent b).toNat - 1075) h
  := by
  use Nat.add_pos_left (Nat.two_pow_pos 52) _
  rw [UnpackedFloat.unpack]
  simp only [if_neg hlast, if_neg hzero, toNat_one_append]
  rfl

/-- The number that is read from a word with the least exponent. -/
theorem unpack_of_subnormal (hzero : unpackExponent b = 0#11)
    (hmantissa : unpackMantissa b ≠ 0#52) :
  ∃ h, UnpackedFloat.unpack Format.binary64 b =
    .finite (Sign.ofBitVec (unpackSign b)) (unpackMantissa b).toNat (-1074) h
  := by
  use Nat.pos_of_ne_zero fun h => hmantissa (BitVec.eq_of_toNat_eq h)
  rw [UnpackedFloat.unpack]
  simp only [hzero, dif_neg hmantissa]
  rfl

/-- A finite number is read as a canonical one. -/
theorem canonical_of_unpack {s : Sign} {m : Nat} {e : Int} {h : 0 < m}
    (hb : UnpackedFloat.unpack Format.binary64 b = .finite s m e h) :
  Canonical m e ∧ e ≤ 971
  := by
  have hexponent : (unpackExponent b).toNat < 2048 := (unpackExponent b).isLt
  have hmantissa : (unpackMantissa b).toNat < 2 ^ 52 := (unpackMantissa b).isLt
  by_cases hlast : unpackExponent b = (-1#11)
  · rw [UnpackedFloat.unpack] at hb
    simp only [if_pos hlast] at hb
    split at hb <;> cases hb
  · by_cases hzero : unpackExponent b = 0#11
    · by_cases hnone : unpackMantissa b = 0#52
      · rw [UnpackedFloat.unpack] at hb
        simp only [if_neg hlast, if_pos hzero, dif_pos hnone] at hb
        cases hb
      · obtain ⟨hpos, hread⟩ := unpack_of_subnormal hzero hnone
        rw [hread] at hb
        cases hb
        exact ⟨⟨hpos, by omega, Int.le_refl _, .inr rfl⟩, by decide⟩
    · obtain ⟨hpos, hread⟩ := unpack_of_normal hlast hzero
      rw [hread] at hb
      cases hb
      have hlo : (unpackExponent b).toNat ≠ 0 := fun h => hzero (BitVec.eq_of_toNat_eq h)
      have hhi : (unpackExponent b).toNat ≠ 2047 := fun h => hlast (BitVec.eq_of_toNat_eq h)
      exact ⟨⟨hpos, by omega, by omega, .inl (Nat.le_add_right _ _)⟩, by omega⟩

end

/-! ### Reading what was written -/

theorem unpack_normal (s : Sign) {m : Nat} (hm : 2 ^ 52 ≤ m) (hm' : m < 2 ^ 53) {exponent : Nat}
    (he : 1 ≤ exponent) (he' : exponent ≤ 2046) :
  ∃ h, UnpackedFloat.unpack Format.binary64 (packComponents Format.binary64 s
    (BitVec.ofNat 11 exponent) (BitVec.ofNat 52 m)) = .finite s m (exponent - 1075) h
  := by
  have hexponent : (BitVec.ofNat 11 exponent).toNat = exponent := by
    rw [BitVec.toNat_ofNat, Nat.mod_eq_of_lt (by omega)]
  have hmantissa : 2 ^ 52 + (BitVec.ofNat 52 m).toNat = m := by
    rw [BitVec.toNat_ofNat]
    omega
  have hlast : BitVec.ofNat 11 exponent ≠ (-1#11) := by
    intro h
    rw [h] at hexponent
    change 2047 = exponent at hexponent
    omega
  have hzero : BitVec.ofNat 11 exponent ≠ 0#11 := by
    intro h
    rw [h] at hexponent
    change 0 = exponent at hexponent
    omega
  have hread := unpack_of_normal
    (b := packComponents Format.binary64 s (BitVec.ofNat 11 exponent) (BitVec.ofNat 52 m))
    (by rw [unpackExponent_packComponents]; apply hlast)
    (by rw [unpackExponent_packComponents]; apply hzero)
  simp only [unpackExponent_packComponents, unpackMantissa_packComponents,
    unpackSign_packComponents, Sign.ofBitVec_toBitVec, hexponent, hmantissa] at hread
  apply hread

theorem unpack_subnormal (s : Sign) {m : Nat} (hm : 0 < m) (hm' : m < 2 ^ 52) :
  UnpackedFloat.unpack Format.binary64 (packComponents Format.binary64 s 0#11 (BitVec.ofNat 52 m)) =
    .finite s m (-1074) hm
  := by
  have hmantissa : (BitVec.ofNat 52 m).toNat = m := by
    rw [BitVec.toNat_ofNat, Nat.mod_eq_of_lt hm']
  have hne : BitVec.ofNat 52 m ≠ 0#52 := by
    intro h
    rw [h] at hmantissa
    change 0 = m at hmantissa
    omega
  obtain ⟨_, hread⟩ := unpack_of_subnormal
    (b := packComponents Format.binary64 s 0#11 (BitVec.ofNat 52 m))
    unpackExponent_packComponents (by rw [unpackMantissa_packComponents]; apply hne)
  simp only [unpackMantissa_packComponents, unpackSign_packComponents, Sign.ofBitVec_toBitVec,
    hmantissa] at hread
  apply hread

/-- A canonical number that is not too large is read from the word that it is written to. -/
theorem unpack_pack (s : Sign) {m : Nat} {e : Int} (hc : Canonical m e) (he : e ≤ 971) :
  (Float.Model.pack (.finite s m e hc.pos)).unpack = .finite s m e hc.pos
  := by
  have hle := hc.le_exponent
  have hlt := hc.mantissa_lt
  have hbias : (e + Format.binary64.exponentBias +
      (Format.binary64.mantissaBitsWithoutImplicit : Nat)).toNat = (e + 1075).toNat := by
    change (e + (1023 : Nat) + (52 : Nat)).toNat = _
    omega
  change UnpackedFloat.unpack _ (UnpackedFloat.pack _ _) = _
  rw [UnpackedFloat.pack]
  simp only [hbias]
  rw [if_neg (by change ¬ 2048 ≤ _; omega)]
  by_cases hm : 2 ^ 52 ≤ m
  · have hlog : m.log2 = 52 := (Nat.log2_eq_iff (Nat.ne_of_gt hc.pos)).mpr ⟨hm, hlt⟩
    rw [if_pos (by rw [hlog]; rfl)]
    have hlo : 1 ≤ (e + 1075).toNat := by omega
    obtain ⟨_, hread⟩ := unpack_normal s hm hlt hlo (by omega)
    rw [hread]
    congr 1
    omega
  · have hlog : m.log2 < 52 := (Nat.log2_lt (Nat.ne_of_gt hc.pos)).mpr (by omega)
    rw [if_neg (by change ¬ m.log2 + 1 = 53; omega)]
    obtain hfull | rfl := hc.full
    · exact absurd hfull hm
    · apply unpack_subnormal s hc.pos (by omega)

/-- A canonical number is read as itself or, if it is too large, as infinity. -/
theorem unpack_pack_or (s : Sign) {m : Nat} {e : Int} (hc : Canonical m e) :
  (Float.Model.pack (.finite s m e hc.pos)).unpack = .finite s m e hc.pos ∨
    (Float.Model.pack (.finite s m e hc.pos)).unpack = .infinity s
  := by
  by_cases he : e ≤ 971
  · left
    apply unpack_pack s hc he
  · right
    have hpack : UnpackedFloat.pack Format.binary64 (.finite s m e hc.pos) =
        packedInfinity Format.binary64 s := by
      rw [UnpackedFloat.pack]
      simp only
      rw [if_pos]
      change 2048 ≤ (e + (1023 : Nat) + (52 : Nat)).toNat + 1
      omega
    change UnpackedFloat.unpack _ (UnpackedFloat.pack _ _) = _
    rw [hpack]
    cases s <;> rfl

end QuotaShare.Binary64
