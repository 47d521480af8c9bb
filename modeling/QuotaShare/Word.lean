/-!
# Machine words

The unsigned 64-bit word, in which arrival times, intervals and versions are kept, with the
addition that stops at the largest word.
-/

namespace QuotaShare.Word

/-- The largest word. -/
def last : UInt64 := 18446744073709551615

/-- The sum of `a` and `b`, or the largest word when the sum does not fit. -/
def addSat (a b : UInt64) : UInt64 :=
  if a.toNat + b.toNat < 18446744073709551616 then a + b else last

theorem toNat_last : last.toNat = 18446744073709551615
  := rfl

theorem toNat_addSat (a b : UInt64) :
  (addSat a b).toNat = min (a.toNat + b.toNat) 18446744073709551615
  := by
  unfold addSat
  split
  · rw [UInt64.toNat_add]
    omega
  · rw [toNat_last]
    omega

theorem toNat_max (a b : UInt64) :
  (max a b).toNat = max a.toNat b.toNat
  := by
  change (if a ≤ b then b else a).toNat = _
  split
  · rename_i h
    rw [UInt64.le_iff_toNat_le] at h
    omega
  · rename_i h
    rw [UInt64.le_iff_toNat_le] at h
    omega

/-- How far `a` lies beyond `b`. -/
theorem toNat_max_sub (a b : UInt64) :
  (max a b - b).toNat = a.toNat - b.toNat
  := by
  have hle : b ≤ max a b := by
    rw [UInt64.le_iff_toNat_le, toNat_max]
    omega
  rw [UInt64.toNat_sub_of_le _ _ hle, toNat_max]
  omega

theorem le_addSat (a b : UInt64) :
  a ≤ addSat a b
  := by
  rw [UInt64.le_iff_toNat_le, toNat_addSat]
  have := a.toNat_lt
  omega

end QuotaShare.Word
