import QuotaShare.Proofs.HitCounter.Count

/-!
# Late hits

What one more hit does to a count, however late it comes.  A hit of a slice that is in the window is
counted, and nothing else changes.  A hit that is older than the window is not counted, but its slot
is started over for it, whatever the slot holds: so the hits of a newer slice are lost when their
slice has the same place in the ring.
-/

namespace QuotaShare

open HitCounter

/-! ### A slot -/

namespace Slot

/-- The hits of a slot that are not counted any more in the window that ends with slice `now`, once
the slot was started over for another slice. -/
def erased (slot : Slot) (index now : UInt64) : Nat :=
  if slot.stamp = index then 0 else slot.visible now

/-- A hit shows if its slice is recent, and what the slot is started over for is lost. -/
theorem visible_record_add_erased (slot : Slot) (index now : UInt64) :
  (slot.record index).visible now + slot.erased index now =
    slot.visible now + if recent now index then 1 else 0
  := by
  rw [erased, record]
  split
  · rename_i hstamp
    rw [visible, visible, hstamp]
    split <;> rfl
  · rw [Nat.add_comm]
    rfl

/-- A slot that was hit holds the last slice that it was given. -/
theorem recordAll_of_getLast? {indices : List UInt64} {last : UInt64}
    (h : indices.getLast? = some last) (slot : Slot) :
  (slot.recordAll indices).stamp = last ∧ 0 < (slot.recordAll indices).hits
  := by
  obtain ⟨earlier, rfl⟩ := List.getLast?_eq_some_iff.mp h
  rw [recordAll, List.foldl_concat, record]
  split
  · rename_i hstamp
    exact ⟨hstamp, Nat.succ_pos _⟩
  · exact ⟨rfl, Nat.one_pos⟩

/-- Something is lost when a slot is started over exactly if the last slice that it was given is
another one and recent. -/
theorem erased_recordAll_pos_iff {indices : List UInt64} {index now : UInt64} :
  0 < (empty.recordAll indices).erased index now ↔
    ∃ last, indices.getLast? = some last ∧ last ≠ index ∧ recent now last = true
  := by
  cases hlast : indices.getLast? with
  | none =>
      obtain rfl := List.getLast?_eq_none_iff.mp hlast
      have hvisible : empty.visible now = 0 := by
        rw [visible]
        split <;> rfl
      change 0 < empty.erased index now ↔ _
      rw [erased, hvisible, ite_self]
      apply iff_of_false (Nat.lt_irrefl 0)
      rintro ⟨_, h, _⟩
      cases h
  | some last =>
      obtain ⟨hstamp, hhits⟩ := recordAll_of_getLast? hlast empty
      rw [erased, visible, hstamp]
      simp only [Option.some.injEq, exists_eq_left']
      by_cases hindex : last = index
      · rw [if_pos hindex]
        exact iff_of_false (Nat.lt_irrefl 0) fun h => h.1 hindex
      · rw [if_neg hindex]
        split
        · rename_i hrecent
          exact iff_of_true hhits ⟨hindex, hrecent⟩
        · rename_i hrecent
          exact iff_of_false (Nat.lt_irrefl 0) fun h => hrecent h.2

end Slot

/-! ### One more hit -/

namespace HitCounter

/-- The hits that are not counted any more at `now` after one more hit, since their slot is started
over for it. -/
def erased (c : HitCounter) (late now : Nat) : Nat :=
  (c.ring.get (place (c.slice late))).erased (c.slice late) (c.slice now)

theorem count_hit_add_erased (c : HitCounter) (late now : Nat) :
  (c.hit late).count now + c.erased late now =
    c.count now + if recent (c.slice now) (c.slice late) then 1 else 0
  := by
  have hslot (p : Fin 10) : (c.hit late).ring[p].visible (c.slice now) +
      (if place (c.slice late) = p then c.ring[p].erased (c.slice late) (c.slice now) else 0) =
      c.ring[p].visible (c.slice now) +
        if place (c.slice late) = p then if recent (c.slice now) (c.slice late) then 1 else 0
        else 0 := by
    rw [ring_hit]
    by_cases hplace : place (c.slice late) = p
    · simp only [if_pos hplace]
      apply Slot.visible_record_add_erased
    · simp only [if_neg hplace]
  have hsum := Finset.sum_congr (rfl : (Finset.univ : Finset (Fin 10)) = Finset.univ)
    fun p _ => hslot p
  rw [Finset.sum_add_distrib, Finset.sum_add_distrib, Finset.sum_ite_eq, Finset.sum_ite_eq,
    if_pos (Finset.mem_univ _), if_pos (Finset.mem_univ _)] at hsum
  rw [count_eq_sum, count_eq_sum]
  apply hsum

/-- The last of some hits whose slices have the same place in the ring as that of a late one. -/
def lastBeside? (c : HitCounter) (times : List Nat) (late : Nat) : Option Nat :=
  (times.filter fun time => place (c.slice time) = place (c.slice late)).getLast?

theorem place_of_lastBeside? {c : HitCounter} {times : List Nat} {late time : Nat}
    (h : c.lastBeside? times late = some time) :
  time ∈ times ∧ place (c.slice time) = place (c.slice late)
  := by
  have hmem := List.mem_filter.mp (List.mem_of_getLast? h)
  exact ⟨hmem.1, of_decide_eq_true hmem.2⟩

theorem erased_hitAll (c : HitCounter) (times : List Nat) (late now : Nat) :
  (c.hitAll times).erased late now =
    ((c.ring.get (place (c.slice late))).recordAll ((times.map c.slice).filter fun i =>
      place i = place (c.slice late))).erased (c.slice late) (c.slice now)
  := by
  have hslot := c.ring_hitAll times (place (c.slice late))
  rw [erased, slice_hitAll, slice_hitAll]
  exact congrArg (Slot.erased · (c.slice late) (c.slice now)) hslot

/-- A late hit of a counter that was fresh before some hits makes others disappear exactly if the last
one beside it is of another slice, which is recent. -/
theorem erased_hitAll_start_pos_iff {window origin : Nat} {times : List Nat} {late now : Nat} :
  0 < ((start window origin).hitAll times).erased late now ↔
    ∃ time, (start window origin).lastBeside? times late = some time ∧
      (start window origin).slice time ≠ (start window origin).slice late ∧
      recent ((start window origin).slice now) ((start window origin).slice time) = true
  := by
  have hempty (p : Fin 10) : (start window origin).ring.get p = Slot.empty :=
    Vector.getElem_replicate p.isLt
  rw [erased_hitAll, hempty, Slot.erased_recordAll_pos_iff, List.filter_map, List.getLast?_map]
  simp only [Option.map_eq_some_iff, exists_exists_and_eq_and]
  rfl

/-- A hit that is in the window is counted, and no other one disappears. -/
theorem count_hit_of_recent (times : List Nat) {window origin late now : Nat}
    (h : recent ((start window origin).slice now) ((start window origin).slice late) = true) :
  (((start window origin).hitAll times).hit late).count now =
    ((start window origin).hitAll times).count now + 1
  := by
  have hcount := ((start window origin).hitAll times).count_hit_add_erased late now
  have hnone : ((start window origin).hitAll times).erased late now = 0 := by
    apply Nat.eq_zero_of_not_pos
    intro hpos
    obtain ⟨time, htime, hne, hrecent⟩ := erased_hitAll_start_pos_iff.mp hpos
    apply hne (eq_of_recent hrecent h (place_of_lastBeside? htime).2)
  rw [hnone, slice_hitAll, slice_hitAll, if_pos h] at hcount
  apply hcount

/-- A count gets smaller exactly when hits disappear. -/
theorem count_hit_lt_iff_erased_pos {window origin : Nat} {times : List Nat} {late now : Nat} :
  (((start window origin).hitAll times).hit late).count now <
      ((start window origin).hitAll times).count now ↔
    0 < ((start window origin).hitAll times).erased late now
  := by
  have hcount := ((start window origin).hitAll times).count_hit_add_erased late now
  rw [slice_hitAll, slice_hitAll] at hcount
  by_cases hlate : recent ((start window origin).slice now) ((start window origin).slice late) = true
  · have hrecent := count_hit_of_recent times hlate
    rw [if_pos hlate] at hcount
    omega
  · rw [if_neg hlate] at hcount
    omega

end HitCounter

/-- What a late hit does to the count of a counter, whatever the hits before it and their order.  The
count gets smaller exactly if the last hit whose slice has the same place in the ring is of another
slice, and this slice is in the window.  A hit that is in the window itself never makes others
disappear: the count is one more.  And as long as slices fit into words and no hit is later than the
query, the hits that disappear are newer than the late one by at least the whole window. -/
theorem count_hit_lt_iff (window origin : Nat) {c : HitCounter} (hc : start window origin = c)
    (times : List Nat) (late now : Nat) :
  (((c.hitAll times).hit late).count now < (c.hitAll times).count now ↔
    ∃ time, c.lastBeside? times late = some time ∧ c.slice time ≠ c.slice late ∧
      recent (c.slice now) (c.slice time) = true) ∧
  (recent (c.slice now) (c.slice late) = true →
    ((c.hitAll times).hit late).count now = (c.hitAll times).count now + 1) ∧
  (c.index now < 18446744073709551616 → (∀ time ∈ late :: times, time ≤ now) →
    ∀ time, c.lastBeside? times late = some time → c.slice time ≠ c.slice late →
      recent (c.slice now) (c.slice time) = true → c.index late + slices ≤ c.index time)
  := by
  refine ⟨?_, ?_, ?_⟩
  · subst hc
    apply count_hit_lt_iff_erased_pos.trans erased_hitAll_start_pos_iff
  · subst hc
    apply count_hit_of_recent times
  · intro hindex hnow time htime hne hrecent
    obtain ⟨hmem, hplace⟩ := place_of_lastBeside? htime
    have hle (t : Nat) (ht : t ∈ late :: times) : c.index t ≤ c.index now :=
      Nat.div_le_div_right (Nat.sub_le_sub_right (hnow t ht) c.origin)
    have hslice (t : Nat) (ht : t ∈ late :: times) : (c.slice t).toNat = c.index t :=
      c.toNat_slice (Nat.lt_of_le_of_lt (hle t ht) hindex)
    have hlate := hslice late List.mem_cons_self
    have hearlier := hslice time (List.mem_cons_of_mem late hmem)
    have hreach := (recent_iff.mp hrecent).2
    have hturn := place_eq_iff.mp hplace
    rw [← UInt64.toNat_inj.ne, hearlier, hlate] at hne
    rw [c.toNat_slice hindex, hearlier] at hreach
    rw [hearlier, hlate] at hturn
    have hlast := hle late List.mem_cons_self
    -- Slices at one place differ by whole turns, and the late one cannot be a turn ahead.
    rw [slices] at hreach hturn ⊢
    omega

/-- A hit of the first slice after ones of the next turn, and a hit of the slice after that. -/
theorem count_hit_lt_of_late :
  let c := start 1000 50
  let times := [60, 1060, 160, 1070]
  start 1000 50 = c ∧ ((c.hitAll times).hit 70).count 1080 < (c.hitAll times).count 1080 ∧
    ((c.hitAll times).hit 170).count 1080 = (c.hitAll times).count 1080 + 1 ∧
    c.index 1080 < 18446744073709551616 ∧ (∀ time ∈ 70 :: times, time ≤ 1080) ∧
    c.index 70 + slices ≤ c.index 1070
  := by
  intro c times
  have hlast : c.lastBeside? times 70 = some 1070 := by decide +kernel
  have hne : c.slice 1070 ≠ c.slice 70 := by decide +kernel
  have hrecent : recent (c.slice 1080) (c.slice 1070) = true := by decide +kernel
  have hindex : c.index 1080 < 18446744073709551616 := by decide +kernel
  have hnow : ∀ time ∈ 70 :: times, time ≤ 1080 := by decide
  obtain ⟨hlt, _, hnewer⟩ := count_hit_lt_iff 1000 50 (c := c) rfl times 70 1080
  obtain ⟨_, hcounted, _⟩ := count_hit_lt_iff 1000 50 (c := c) rfl times 170 1080
  exact ⟨rfl, hlt.mpr ⟨1070, hlast, hne, hrecent⟩, hcounted (by decide +kernel), hindex, hnow,
    hnewer hindex hnow 1070 hlast hne hrecent⟩

/-- Three hits at the end of the first second are not counted any more after one that comes a second
late. -/
theorem count_eq_zero_after_late_hit :
  let c := (start 1000000000 0).hitAll [1000000000, 1000000000, 1000000000]
  c.count 1000000000 = 3 ∧ (c.hit 0).count 1000000000 = 0
  := by
  decide +kernel

end QuotaShare
