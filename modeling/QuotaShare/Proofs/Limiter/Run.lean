import QuotaShare.Limiter

/-!
# Runs of a limiter

A limiter that is asked at one instant after the other, and the times at which it admits.  While
its rate stays as it is, a limiter decides by its cadence, its arrival time and the times since its
origin alone.
-/

namespace QuotaShare

namespace Cadence

/-! ### A single request -/

/-- A request is admitted when the arrival time lies at most the tolerance ahead. -/
theorem admits_iff (c : Cadence) (now arrival : UInt64) :
  c.admits now arrival = true ↔ arrival.toNat ≤ now.toNat + c.tolerance.toNat
  := by
  rw [admits, decide_eq_true_iff, UInt64.le_iff_toNat_le, Word.toNat_max_sub]
  omega

/-- A request is refused when the arrival time lies further ahead than the tolerance. -/
theorem not_admits_iff (c : Cadence) (now arrival : UInt64) :
  c.admits now arrival = false ↔ now.toNat + c.tolerance.toNat < arrival.toNat
  := by
  rw [← Bool.not_eq_true, admits_iff, Nat.not_le]

/-- An admitted request moves the arrival time to an interval after the later of itself and the
present, if that is a word. -/
theorem toNat_charge (c : Cadence) (now arrival : UInt64)
    (fits : max arrival.toNat now.toNat + c.interval.toNat < 18446744073709551616) :
  (c.charge now arrival).toNat = max arrival.toNat now.toNat + c.interval.toNat
  := by
  rw [charge, Word.toNat_addSat, Word.toNat_max]
  omega

/-- An admitted request moves the arrival time at most so far. -/
theorem charge_le (c : Cadence) (now arrival : UInt64) :
  (c.charge now arrival).toNat ≤ max arrival.toNat now.toNat + c.interval.toNat
  := by
  rw [charge, Word.toNat_addSat, Word.toNat_max]
  omega

/-- The arrival time never moves back. -/
theorem le_charge (c : Cadence) (now arrival : UInt64) :
  arrival.toNat ≤ (c.charge now arrival).toNat
  := by
  have h := Word.le_addSat (max arrival now) c.interval
  rw [UInt64.le_iff_toNat_le, Word.toNat_max] at h
  rw [charge]
  omega

theorem offer_of_admits {c : Cadence} {now arrival : UInt64} (h : c.admits now arrival = true) :
  c.offer now arrival = (true, c.charge now arrival)
  := if_pos h

theorem offer_of_not_admits {c : Cadence} {now arrival : UInt64}
    (h : c.admits now arrival = false) :
  c.offer now arrival = (false, arrival)
  := if_neg (by rw [h]; exact Bool.false_ne_true)

/-! ### Requests one after the other -/

theorem offerAll_of_admits {c : Cadence} {now arrival : UInt64} (h : c.admits now arrival = true)
    (later : List UInt64) :
  c.offerAll arrival (now :: later) =
    (true :: (c.offerAll (c.charge now arrival) later).1,
      (c.offerAll (c.charge now arrival) later).2)
  := by
  rw [offerAll, offer_of_admits h]

theorem offerAll_of_not_admits {c : Cadence} {now arrival : UInt64}
    (h : c.admits now arrival = false) (later : List UInt64) :
  c.offerAll arrival (now :: later) =
    (false :: (c.offerAll arrival later).1, (c.offerAll arrival later).2)
  := by
  rw [offerAll, offer_of_not_admits h]

/-- The times of the admitted requests among requests at the given times. -/
def admitted (c : Cadence) (arrival : UInt64) (calls : List UInt64) : List UInt64 :=
  ((calls.zip (c.offerAll arrival calls).1).filter Prod.snd).map Prod.fst

theorem admitted_of_admits {c : Cadence} {now arrival : UInt64} (h : c.admits now arrival = true)
    (later : List UInt64) :
  c.admitted arrival (now :: later) = now :: c.admitted (c.charge now arrival) later
  := by
  rw [admitted, offerAll_of_admits h]
  rfl

theorem admitted_of_not_admits {c : Cadence} {now arrival : UInt64}
    (h : c.admits now arrival = false) (later : List UInt64) :
  c.admitted arrival (now :: later) = c.admitted arrival later
  := by
  rw [admitted, offerAll_of_not_admits h]
  rfl

/-- Of requests at one instant the first ones are admitted, as long as the arrival time, one interval
later for each of them, stays within the tolerance; all further ones are refused. -/
theorem offerAll_replicate {c : Cadence} {now arrival : UInt64}
    (fits : now.toNat + c.tolerance.toNat + 1 < 18446744073709551616) {k : Nat}
    (hk : ∀ i, i < k ↔
      max arrival.toNat now.toNat + i * c.interval.toNat ≤ now.toNat + c.tolerance.toNat) (n : Nat) :
  (c.offerAll arrival (List.replicate n now)).1 =
    List.replicate (min n k) true ++ List.replicate (n - k) false
  := by
  induction n generalizing arrival k with
  | zero => rw [Nat.zero_min, Nat.zero_sub]; rfl
  | succ n ih =>
      have hfirst := hk 0
      rw [List.replicate_succ]
      cases h : c.admits now arrival with
      | false =>
          have hlt := (c.not_admits_iff now arrival).mp h
          obtain rfl : k = 0 := by omega
          rw [offerAll_of_not_admits h, ih hk, Nat.min_zero, Nat.min_zero]
          rfl
      | true =>
          have hle := (c.admits_iff now arrival).mp h
          obtain ⟨j, rfl⟩ : ∃ j, k = j + 1 := Nat.exists_eq_succ_of_ne_zero (by omega)
          -- A charge that does not fit is refused at once, as the exact one would be.
          have hj : ∀ i, i < j ↔ max (c.charge now arrival).toNat now.toNat + i * c.interval.toNat ≤
              now.toNat + c.tolerance.toNat := by
            intro i
            have hi := hk (i + 1)
            rw [Nat.add_mul, Nat.one_mul] at hi
            rw [charge, Word.toNat_addSat, Word.toNat_max]
            omega
          rw [offerAll_of_admits h, ih hj, Nat.add_min_add_right, Nat.add_sub_add_right]
          rfl

end Cadence

namespace Pace

variable {α : Type} [Scalar α]

/-- The interval of a pace is at least a nanosecond. -/
theorem one_le_interval (rate burst : α) :
  1 ≤ (ofRate rate burst).interval
  := by
  rw [UInt64.le_iff_toNat_le, ofRate, Word.toNat_max]
  exact Nat.le_max_right _ _

/-- The tolerance of a pace is the time in which all tokens but one accrue. -/
theorem tolerance_eq (rate burst : α) :
  (ofRate rate burst).tolerance = Scalar.floor (((ofRate rate burst).capacity - Scalar.ofNat 1) *
    Scalar.ofNat (ofRate rate burst).interval.toNat)
  := rfl

end Pace

namespace Limiter

variable {α : Type}

/-! ### Times since the origin -/

/-- The time since the origin, if it is a word. -/
theorem toNat_elapsed (l : Limiter α) {now : Nat} (fits : now - l.origin < 18446744073709551616) :
  (l.elapsed now).toNat = now - l.origin
  := Nat.mod_eq_of_lt fits

theorem map_toNat_elapsed (l : Limiter α) {instants : List Nat}
    (fits : ∀ now ∈ instants, now - l.origin < 18446744073709551616) :
  (instants.map l.elapsed).map UInt64.toNat = instants.map (· - l.origin)
  := by
  rw [List.map_map]
  apply List.map_congr_left
  intro now hnow
  apply l.toNat_elapsed (fits now hnow)

/-- What holds of the times since the origin holds of the words that stand for them. -/
theorem forall_elapsed (l : Limiter α) {instants : List Nat}
    (fits : ∀ now ∈ instants, now - l.origin < 18446744073709551616) {P : Nat → Prop}
    (h : ∀ now ∈ instants, P (now - l.origin)) :
  ∀ call ∈ instants.map l.elapsed, P call.toNat
  := by
  intro call hcall
  obtain ⟨now, hnow, rfl⟩ := List.mem_map.mp hcall
  rw [l.toNat_elapsed (fits now hnow)]
  apply h now hnow

/-- The times since the origin are in order when the instants are. -/
theorem pairwise_elapsed (l : Limiter α) {instants : List Nat}
    (sorted : instants.Pairwise (· ≤ ·))
    (fits : ∀ now ∈ instants, now - l.origin < 18446744073709551616) :
  (instants.map l.elapsed).Pairwise (· ≤ ·)
  := by
  apply List.pairwise_map.mpr
  apply List.Pairwise.imp_of_mem _ sorted
  intro now next hnow hnext hle
  rw [UInt64.le_iff_toNat_le, l.toNat_elapsed (fits now hnow), l.toNat_elapsed (fits next hnext)]
  omega

/-! ### Requests one after the other -/

variable [Scalar α]

/-- Requests at the given instants, one after the other: the decisions and the limiter after
them. -/
def acquireAll (l : Limiter α) : List Nat → List Bool × Limiter α
  | [] => ([], l)
  | now :: later =>
    let (admitted, l) := l.acquire now
    let (decisions, l) := l.acquireAll later
    (admitted :: decisions, l)

/-- A limiter decides as its cadence does at the times since its origin. -/
theorem acquireAll_eq (l : Limiter α) (instants : List Nat) :
  l.acquireAll instants =
    ((l.pace.offerAll l.arrival (instants.map l.elapsed)).1,
      { l with arrival := (l.pace.offerAll l.arrival (instants.map l.elapsed)).2 })
  := by
  induction instants generalizing l with
  | nil => rfl
  | cons now later ih =>
      have h := ih (l.acquire now).2
      change ((l.acquire now).1 :: ((l.acquire now).2.acquireAll later).1,
        ((l.acquire now).2.acquireAll later).2) = _
      rw [h]
      rfl

/-- The times since the origin of the admitted requests among requests at the given instants. -/
def admitted (l : Limiter α) (instants : List Nat) : List UInt64 :=
  (((instants.map l.elapsed).zip (l.acquireAll instants).1).filter Prod.snd).map Prod.fst

theorem admitted_eq (l : Limiter α) (instants : List Nat) :
  l.admitted instants = l.pace.admitted l.arrival (instants.map l.elapsed)
  := by
  rw [admitted, acquireAll_eq]
  rfl

/-- A limiter that was just made decides about requests in order as its cadence does, from an arrival
time at the tolerance and at the times since its origin. -/
theorem exists_calls_start (rate burst : α) {origin : Nat} {instants : List Nat}
    (sorted : instants.Pairwise (· ≤ ·))
    (fits : ∀ now ∈ instants, now - origin + (Pace.ofRate rate burst).tolerance.toNat +
      (Pace.ofRate rate burst).interval.toNat < 18446744073709551616) :
  ∃ calls : List UInt64, calls.map UInt64.toNat = instants.map (· - origin) ∧
    calls.Pairwise (· ≤ ·) ∧
    (∀ call ∈ calls, call.toNat + (Pace.ofRate rate burst).tolerance.toNat +
      (Pace.ofRate rate burst).interval.toNat < 18446744073709551616) ∧
    ((start rate burst origin).acquireAll instants).1 =
      ((Pace.ofRate rate burst).offerAll (Pace.ofRate rate burst).tolerance calls).1
  := by
  let l := start rate burst origin
  have hword : ∀ now ∈ instants, now - l.origin < 18446744073709551616 := by
    intro now hnow
    have h := fits now hnow
    change now - origin < 18446744073709551616
    omega
  refine ⟨instants.map l.elapsed, l.map_toNat_elapsed hword, l.pairwise_elapsed sorted hword, ?_, ?_⟩
  · apply l.forall_elapsed hword (P := fun now => now + (Pace.ofRate rate burst).tolerance.toNat +
      (Pace.ofRate rate burst).interval.toNat < 18446744073709551616) fits
  · rw [acquireAll_eq]
    rfl

end Limiter

end QuotaShare
