import QuotaShare.Proofs.Float.Word
import QuotaShare.Proofs.Limiter.Run

/-!
# Requests at the start

A limiter that was just made has a single token: of the requests at its first instant it admits the
first one and refuses all others.  There is one exception.  When all tokens but one would take longer
to accrue than a word can tell, the tolerance is the largest word, no arrival time lies further ahead
than that, and every request is admitted.
-/

namespace QuotaShare

namespace Cadence

variable {c : Cadence}

/-- No request is refused when the tolerance is the largest word. -/
theorem offerAll_of_tolerance_eq_last (h : c.tolerance = Word.last) (arrival : UInt64)
    (calls : List UInt64) :
  (c.offerAll arrival calls).1 = List.replicate calls.length true
  := by
  induction calls generalizing arrival with
  | nil => rfl
  | cons now later ih =>
      have hlt := arrival.toNat_lt
      have hadmits : c.admits now arrival = true := by
        rw [admits_iff, h, Word.toNat_last]
        omega
      rw [offerAll_of_admits hadmits, ih, List.length_cons, List.replicate_succ]

/-- From an arrival time at the tolerance one request is admitted at the first instant, when the
tolerance is any other word. -/
theorem offerAll_replicate_zero (hc : 1 ≤ c.interval) (h : c.tolerance ≠ Word.last) (n : Nat) :
  (c.offerAll c.tolerance (List.replicate (n + 1) 0)).1 = true :: List.replicate n false
  := by
  have hpos : 1 ≤ c.interval.toNat := UInt64.le_iff_toNat_le.mp hc
  have hlt : c.tolerance.toNat < 18446744073709551615 := by
    have hne := mt UInt64.toNat_inj.mp h
    have htolerance := c.tolerance.toNat_lt
    rw [Word.toNat_last] at hne
    omega
  have hone : ∀ i, i < 1 ↔
      max c.tolerance.toNat (0 : UInt64).toNat + i * c.interval.toNat ≤
        (0 : UInt64).toNat + c.tolerance.toNat := by
    intro i
    have hmul := Nat.le_mul_of_pos_right i hpos
    rw [UInt64.toNat_zero]
    constructor
    · intro hi
      obtain rfl : i = 0 := by omega
      omega
    · omega
  rw [offerAll_replicate (by rw [UInt64.toNat_zero]; omega) hone, Nat.min_eq_right (by omega),
    Nat.add_sub_cancel]
  rfl

end Cadence

/-- A limiter that was just made admits the first request at its first instant, and the others there
only when its tolerance is the largest word. -/
theorem Limiter.acquireAll_start_replicate {α : Type} [Scalar α] (rate burst : α) (origin n : Nat) :
  ((start rate burst origin).acquireAll (List.replicate (n + 1) origin)).1 =
    true :: List.replicate n (decide ((Pace.ofRate rate burst).tolerance = Word.last))
  := by
  have hzero : (start rate burst origin).elapsed origin = 0 := by
    change (origin - origin).toUInt64 = 0
    rw [Nat.sub_self]
    rfl
  rw [acquireAll_eq, List.map_replicate, hzero]
  change ((Pace.ofRate rate burst).offerAll (Pace.ofRate rate burst).tolerance _).1 = _
  by_cases h : (Pace.ofRate rate burst).tolerance = Word.last
  · rw [Cadence.offerAll_of_tolerance_eq_last h, decide_eq_true h, List.length_replicate,
      List.replicate_succ]
  · rw [Cadence.offerAll_replicate_zero (Pace.one_le_interval rate burst) h, decide_eq_false h]

/-- A limiter that was just made, at any rate and with any burst, admits the first request at its first
instant.  It refuses all further ones there, unless the tokens that can be banked besides one take at
least two to the power of 64 nanoseconds to accrue: then it admits them all. -/
theorem admitted_at_start (rate burst : Float) (origin n : Nat) :
  ((Limiter.start rate burst origin).acquireAll (List.replicate (n + 1) origin)).1 =
    true :: List.replicate n (decide (18446744073709551616.0 ≤
      ((Pace.ofRate rate burst).capacity - 1.0) * (Pace.ofRate rate burst).interval.toFloat))
  := by
  have hone : (Scalar.ofNat 1 : Float) = 1.0 := by decide +kernel
  have htolerance := Pace.tolerance_eq rate burst
  rw [hone, ofNat_toNat] at htolerance
  rw [Limiter.acquireAll_start_replicate, htolerance]
  congr 2
  rw [decide_eq_decide]
  apply toUInt64_eq_last_iff

/-- A burst of twenty billion seconds, a burst without end and a rate of more requests than there are
words, each of which makes a limiter admit every request at its first instant. -/
theorem all_admitted_at_start_of_long_burst :
  Scalar.usable (10.0 : Float) = true ∧ Scalar.usable (1e20 : Float) = true ∧
    ((Limiter.start (10.0 : Float) 20000000000.0 0).acquireAll [0, 0, 0]).1 = [true, true, true] ∧
    ((Limiter.start (10.0 : Float) (1.0 / 0.0) 0).acquireAll [0, 0, 0]).1 = [true, true, true] ∧
    ((Limiter.start (1e20 : Float) 1.0 0).acquireAll [0, 0, 0]).1 = [true, true, true]
  := by
  decide +kernel

end QuotaShare
