import Mathlib.Algebra.BigOperators.Fin
import Mathlib.Algebra.BigOperators.Group.Finset.Piecewise
import Mathlib.Data.List.Induction
import QuotaShare.HitCounter

/-!
# Exact counts

A counter whose hits come out of order, but never further back than the ring reaches, counts each
hit of the last slices once and no other hit.  The ring keeps the slices of different places apart,
and at each place the slices follow in order, so a slot is started over only for a newer slice.
-/

namespace QuotaShare

namespace HitCounter

/-! ### Recent slices -/

/-- The recent slices are the last ones up to a given one, as many as there are slots. -/
theorem recent_iff {index stamp : UInt64} :
  recent index stamp = true ↔ stamp.toNat ≤ index.toNat ∧ index.toNat < stamp.toNat + slices
  := by
  have hten : (10 : UInt64).toNat = 10 := rfl
  rw [recent, Bool.and_eq_true, decide_eq_true_iff, decide_eq_true_iff, UInt64.le_iff_toNat_le,
    UInt64.lt_iff_toNat_lt, hten]
  constructor
  · rintro ⟨hle, hlt⟩
    rw [UInt64.toNat_sub_of_le _ _ (UInt64.le_iff_toNat_le.mpr hle)] at hlt
    use hle
    rw [slices]
    omega
  · rintro ⟨hle, hlt⟩
    rw [slices] at hlt
    use hle
    rw [UInt64.toNat_sub_of_le _ _ (UInt64.le_iff_toNat_le.mpr hle)]
    omega

/-- Slices at one place of the ring agree up to whole turns of it. -/
theorem place_eq_iff {i j : UInt64} :
  place i = place j ↔ i.toNat % slices = j.toNat % slices
  := Fin.ext_iff

/-- No two recent slices have the same place in the ring. -/
theorem eq_of_recent {index i j : UInt64} (hi : recent index i = true)
    (hj : recent index j = true) (hplace : place i = place j) :
  i = j
  := by
  obtain ⟨hi, hi'⟩ := recent_iff.mp hi
  obtain ⟨hj, hj'⟩ := recent_iff.mp hj
  have hmod := place_eq_iff.mp hplace
  rw [slices] at hi' hj' hmod
  apply UInt64.toNat_inj.mp
  omega

end HitCounter

open HitCounter

/-! ### A slot -/

namespace Slot

/-- The slot after hits in the given slices, one after the other. -/
def recordAll (slot : Slot) (indices : List UInt64) : Slot :=
  indices.foldl record slot

/-- The hits of a slot that are counted in the window that ends with slice `index`. -/
def visible (slot : Slot) (index : UInt64) : Nat :=
  if recent index slot.stamp then slot.hits else 0

/-- A slot that is given its slices in order holds the last of them, and how often it was hit. -/
theorem recordAll_concat {earlier : List UInt64} {last : UInt64}
    (h : (earlier ++ [last]).Pairwise (· ≤ ·)) :
  empty.recordAll (earlier ++ [last]) = ⟨last, (earlier ++ [last]).count last⟩
  := by
  have hcount : (earlier ++ [last]).count last = earlier.count last + 1 := by
    rw [List.count_append, List.count_singleton_self]
  rw [hcount]
  induction earlier using List.reverseRecOn generalizing last with
  | nil =>
      change (if 0 = last then _ else _) = _
      split
      · rename_i hlast
        rw [← hlast]
        rfl
      · rfl
  | append_singleton earlier previous ih =>
      obtain ⟨hearlier, _, hle⟩ := List.pairwise_append.mp h
      have hprevious : (earlier ++ [previous]).count previous = earlier.count previous + 1 := by
        rw [List.count_append, List.count_singleton_self]
      rw [recordAll, List.foldl_concat]
      change record (empty.recordAll (earlier ++ [previous])) last = _
      rw [ih hearlier hprevious, record]
      split
      · rename_i heq
        obtain rfl : previous = last := heq
        rw [hprevious]
      · -- The slices before the previous one are not newer than it, so none of them is the last.
        rename_i hne
        have hzero : (earlier ++ [previous]).count last = 0 := by
          apply List.count_eq_zero.mpr
          intro hmem
          have hlast : previous ≤ last :=
            hle previous (List.mem_append_right _ List.mem_cons_self) last List.mem_cons_self
          obtain hmem | hmem := List.mem_append.mp hmem
          · apply hne (UInt64.le_antisymm hlast _)
            apply (List.pairwise_append.mp hearlier).2.2 last hmem previous List.mem_cons_self
          · apply hne (List.mem_singleton.mp hmem).symm
        rw [hzero]

/-- A slot that is given the slices of its place in order shows the hits of the recent ones. -/
theorem visible_recordAll {indices : List UInt64} (h : indices.Pairwise (· ≤ ·)) {index : UInt64}
    (hle : ∀ i ∈ indices, i ≤ index) (hplace : ∀ i ∈ indices, ∀ j ∈ indices, place i = place j) :
  (empty.recordAll indices).visible index = indices.countP (recent index)
  := by
  rcases List.eq_nil_or_concat' indices with rfl | ⟨earlier, last, rfl⟩
  · change (if recent index 0 then 0 else 0) = 0
    split <;> rfl
  · have hmem : last ∈ earlier ++ [last] := List.mem_append_right _ List.mem_cons_self
    rw [recordAll_concat h, visible, List.count]
    split
    · rename_i hlast
      apply List.countP_congr
      intro i hi
      rw [beq_iff_eq]
      constructor
      · rintro rfl
        apply hlast
      · intro hrecent
        apply eq_of_recent hrecent hlast (hplace i hi last hmem)
    · -- The last slice is the newest, and even that is out of the window.
      rename_i hlast
      symm
      apply List.countP_eq_zero.mpr
      intro i hi hrecent
      apply hlast
      have hilast : i ≤ last := by
        rcases List.mem_append.mp hi with hi | hi
        · apply (List.pairwise_append.mp h).2.2 i hi last List.mem_cons_self
        · apply UInt64.le_of_eq (List.mem_singleton.mp hi)
      have hlt := (recent_iff.mp hrecent).2
      rw [UInt64.le_iff_toNat_le] at hilast
      apply recent_iff.mpr
      use UInt64.le_iff_toNat_le.mp (hle last hmem)
      change index.toNat < last.toNat + slices
      omega

end Slot

/-! ### The ring -/

namespace HitCounter

/-- The counter after hits at the given instants, one after the other. -/
def hitAll (c : HitCounter) (times : List Nat) : HitCounter :=
  times.foldl hit c

variable (c : HitCounter)

theorem slice_hitAll (times : List Nat) (now : Nat) :
  (c.hitAll times).slice now = c.slice now
  := by
  induction times generalizing c with
  | nil => rfl
  | cons time times ih => apply ih (c.hit time)

/-- A hit concerns the slot at the place of its slice alone. -/
theorem ring_hit (now : Nat) (p : Fin 10) :
  (c.hit now).ring[p] =
    if place (c.slice now) = p then c.ring[p].record (c.slice now) else c.ring[p]
  := by
  rw [hit, Fin.getElem_fin, Fin.getElem_fin]
  simp only [Vector.getElem_set, Fin.val_inj]
  split
  · rename_i h
    subst h
    rfl
  · rfl

/-- Each slot is given the slices of its place. -/
theorem ring_hitAll (times : List Nat) (p : Fin 10) :
  (c.hitAll times).ring[p] =
    c.ring[p].recordAll ((times.map c.slice).filter fun i => place i = p)
  := by
  induction times generalizing c with
  | nil => rfl
  | cons time times ih =>
      have h := ih (c.hit time)
      rw [ring_hit] at h
      apply h.trans
      rw [List.map_cons, List.filter_cons]
      by_cases hplace : place (c.slice time) = p
      · rw [if_pos hplace, if_pos (decide_eq_true hplace)]
        rfl
      · rw [if_neg hplace, if_neg (by rw [decide_eq_true_iff]; apply hplace)]
        rfl

/-- The count is the sum of what the slots show. -/
theorem count_eq_sum (now : Nat) :
  c.count now = ∑ p : Fin 10, c.ring[p].visible (c.slice now)
  := by
  have hring : c.ring.toList = List.ofFn fun p : Fin 10 => c.ring[p] := by
    rw [← Vector.toList_ofFn]
    congr 1
    symm
    apply Vector.ofFn_getElem
  have hsum : ∑ p : Fin 10, c.ring[p].visible (c.slice now) =
      (c.ring.toList.map fun slot => slot.visible (c.slice now)).sum := by
    rw [hring, List.map_ofFn, List.sum_ofFn]
    rfl
  rw [hsum, count, List.foldl_filter, List.sum_eq_foldl, List.foldl_map]
  congr 1
  funext n slot
  rw [Slot.visible]
  split <;> rfl

/-- Hits that are counted place by place are counted once each. -/
theorem sum_countP_place (indices : List UInt64) (counted : UInt64 → Bool) :
  ∑ p : Fin 10, (indices.filter fun i => place i = p).countP counted = indices.countP counted
  := by
  induction indices with
  | nil => simp
  | cons i indices ih =>
      have hcons (p : Fin 10) : ((i :: indices).filter fun i => place i = p).countP counted =
          (indices.filter fun i => place i = p).countP counted +
            if place i = p then if counted i then 1 else 0 else 0 := by
        rw [List.filter_cons]
        by_cases hplace : place i = p
        · rw [if_pos (decide_eq_true hplace), if_pos hplace, List.countP_cons]
        · rw [if_neg (by rw [decide_eq_true_iff]; apply hplace), if_neg hplace, Nat.add_zero]
      rw [Finset.sum_congr rfl fun p _ => hcons p, Finset.sum_add_distrib, ih, List.countP_cons,
        Finset.sum_ite_eq, if_pos (Finset.mem_univ _)]

/-- Hits that are never further back than the ring reaches come in order at each place, so a fresh
counter shows those whose slices are recent. -/
theorem count_hitAll_start (window origin now : Nat) {times : List Nat}
    (horder : times.Pairwise fun a b =>
      ((start window origin).slice a).toNat ≤ ((start window origin).slice b).toNat + 9)
    (hnow : ∀ time ∈ times, (start window origin).slice time ≤ (start window origin).slice now) :
  ((start window origin).hitAll times).count now =
    times.countP fun time =>
      recent ((start window origin).slice now) ((start window origin).slice time)
  := by
  rw [count_eq_sum, slice_hitAll]
  have hmap : (times.countP fun time =>
      recent ((start window origin).slice now) ((start window origin).slice time)) =
      (times.map (start window origin).slice).countP (recent ((start window origin).slice now)) := by
    rw [List.countP_map]
    rfl
  rw [hmap, ← sum_countP_place]
  apply Finset.sum_congr rfl
  intro p _
  have hempty : (start window origin).ring[p] = Slot.empty := Vector.getElem_replicate p.isLt
  rw [ring_hitAll, hempty]
  apply Slot.visible_recordAll
  · rw [List.pairwise_filter, List.pairwise_map]
    apply horder.imp
    intro a b hle ha hb
    have hplace := place_eq_iff.mp ((of_decide_eq_true ha).trans (of_decide_eq_true hb).symm)
    rw [slices] at hplace
    rw [UInt64.le_iff_toNat_le]
    omega
  · intro i hi
    obtain ⟨time, htime, rfl⟩ := List.mem_map.mp (List.mem_filter.mp hi).1
    apply hnow time htime
  · intro i hi j hj
    rw [of_decide_eq_true (List.mem_filter.mp hi).2, of_decide_eq_true (List.mem_filter.mp hj).2]

/-! ### Ages -/

/-- The nanoseconds from the origin to an instant; an earlier instant counts as the origin. -/
def elapsed (now : Nat) : Nat :=
  now - c.origin

/-- The index of the slice that holds an instant. -/
def index (now : Nat) : Nat :=
  c.elapsed now / c.width

/-- Whether the window that ends at `now` reaches back to the slice of an instant. -/
def reaches (now time : Nat) : Bool :=
  c.index now < c.index time + slices

theorem toNat_slice {now : Nat} (h : c.index now < 18446744073709551616) :
  (c.slice now).toNat = c.index now
  := Nat.mod_eq_of_lt h

theorem width_start_pos (window origin : Nat) :
  0 < (start window origin).width
  := Nat.le_max_right _ 1

/-- The window reaches back to what is at most nine slices old. -/
theorem reaches_of_le {c : HitCounter} (hc : 0 < c.width) {now time : Nat}
    (h : c.elapsed now ≤ c.elapsed time + 9 * c.width) :
  c.reaches now time = true
  := by
  have hdiv : c.index now ≤ (c.elapsed time + 9 * c.width) / c.width := Nat.div_le_div_right h
  rw [Nat.add_mul_div_right _ _ hc] at hdiv
  apply decide_eq_true
  change c.index now < c.elapsed time / c.width + 10
  omega

/-- The window does not reach back to what is as old as it is long. -/
theorem not_reaches_of_le {c : HitCounter} (hc : 0 < c.width) {now time : Nat}
    (h : c.elapsed time + c.window ≤ c.elapsed now) :
  c.reaches now time = false
  := by
  have hdiv : (c.elapsed time + c.window) / c.width ≤ c.index now := Nat.div_le_div_right h
  rw [window, Nat.mul_comm, Nat.add_mul_div_right _ _ hc] at hdiv
  apply decide_eq_false
  change ¬ c.index now < c.elapsed time / c.width + slices
  omega

end HitCounter

/-- A fresh counter whose hits come out of order, but never ten slices or more behind the newest
slice, counts each hit whose slice is among the last ten once, and no other hit: each hit that is at
most nine slices old, and none that is as old as the window is long. -/
theorem count_eq_hits_in_window (window origin : Nat) {c : HitCounter}
    (hc : start window origin = c) {times : List Nat}
    (horder : times.Pairwise fun a b => c.index a ≤ c.index b + 9) {now : Nat}
    (hnow : ∀ time ∈ times, c.index time ≤ c.index now)
    (helapsed : c.elapsed now < 18446744073709551616) :
  (c.hitAll times).count now = times.countP (c.reaches now) ∧
    ∀ time ∈ times,
      (c.elapsed now ≤ c.elapsed time + 9 * c.width → c.reaches now time = true) ∧
        (c.elapsed time + c.window ≤ c.elapsed now → c.reaches now time = false)
  := by
  have hwidth : 0 < c.width := by
    rw [← hc]
    apply width_start_pos
  have hindex : c.index now < 18446744073709551616 :=
    Nat.lt_of_le_of_lt (Nat.div_le_self _ _) helapsed
  have hslice (time : Nat) (h : time ∈ times) : (c.slice time).toNat = c.index time :=
    c.toNat_slice (Nat.lt_of_le_of_lt (hnow time h) hindex)
  constructor
  · subst hc
    rw [count_hitAll_start]
    · apply List.countP_congr
      intro time htime
      rw [recent_iff, hslice time htime, toNat_slice _ hindex, reaches, decide_eq_true_iff]
      constructor
      · rintro ⟨_, h⟩
        apply h
      · intro h
        use hnow time htime
    · apply horder.imp_of_mem
      intro a b ha hb hle
      rw [hslice a ha, hslice b hb]
      apply hle
    · intro time htime
      rw [UInt64.le_iff_toNat_le, hslice time htime, toNat_slice _ hindex]
      apply hnow time htime
  · intro time _
    use reaches_of_le hwidth
    apply not_reaches_of_le hwidth

/-- Hits out of order around a turn of the ring, after which one slice is out of the window. -/
theorem count_hits_out_of_order :
  let c := start 1000 50
  let times := [60, 160, 1049, 149, 1050, 2049, 1150, 1149]
  (times.Pairwise fun a b => c.index a ≤ c.index b + 9) ∧
    (∀ time ∈ times, c.index time ≤ c.index 2050) ∧ c.elapsed 2050 < 18446744073709551616 ∧
    (c.hitAll times).count 2050 = times.countP (c.reaches 2050) ∧
    ∀ time ∈ times,
      (c.elapsed 2050 ≤ c.elapsed time + 9 * c.width → c.reaches 2050 time = true) ∧
        (c.elapsed time + c.window ≤ c.elapsed 2050 → c.reaches 2050 time = false)
  := by
  intro c times
  have horder : times.Pairwise fun a b => c.index a ≤ c.index b + 9 := by decide
  have hnow : ∀ time ∈ times, c.index time ≤ c.index 2050 := by decide
  have helapsed : c.elapsed 2050 < 18446744073709551616 := by decide
  exact ⟨horder, hnow, helapsed, count_eq_hits_in_window 1000 50 rfl horder hnow helapsed⟩

end QuotaShare
