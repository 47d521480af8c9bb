import Mathlib.Tactic.Use
import QuotaShare.Proofs.Limiter.Run

/-!
# A limiter as a bucket of tokens

A bucket fills up while time passes, up to a fixed level, and a request is admitted when the bucket
holds a token's worth, which is then taken out.  A limiter whose requests are in order decides as
such a bucket does: what the bucket lacks is how far the arrival time lies ahead of the present.
-/

namespace QuotaShare

/-- A bucket in which a token is an interval's worth of nanoseconds. -/
structure Bucket where
  /-- The nanoseconds that the bucket holds. -/
  level : Nat
  /-- The time at which it held them. -/
  since : Nat

namespace Bucket

/-- The nanoseconds that a full bucket holds: the tolerance and one token. -/
def full (c : Cadence) : Nat :=
  c.tolerance.toNat + c.interval.toNat

/-- The bucket that holds a single token at the start. -/
def fresh (c : Cadence) : Bucket where
  level := c.interval.toNat
  since := 0

/-- The level at `now`, after the time that passed. -/
def levelAt (c : Cadence) (b : Bucket) (now : Nat) : Nat :=
  min (full c) (b.level + (now - b.since))

/-- One request at `now`: the decision, and the bucket after it. -/
def offer (c : Cadence) (b : Bucket) (now : Nat) : Bool × Bucket :=
  if c.interval.toNat ≤ b.levelAt c now then (true, ⟨b.levelAt c now - c.interval.toNat, now⟩)
  else (false, ⟨b.levelAt c now, now⟩)

/-- The decisions about requests at the given times, one after the other. -/
def decisions (c : Cadence) (b : Bucket) : List Nat → List Bool
  | [] => []
  | now :: later => (b.offer c now).1 :: (b.offer c now).2.decisions c later

/-- A bucket lacks as much as the arrival time lies ahead. -/
def Mirrors (c : Cadence) (b : Bucket) (arrival : UInt64) : Prop :=
  b.level + (arrival.toNat - b.since) = full c

/-- A bucket with a single token mirrors an arrival time at the tolerance. -/
theorem mirrors_fresh (c : Cadence) :
  (fresh c).Mirrors c c.tolerance
  := by
  simp only [Mirrors, fresh, full]
  omega

/-- A bucket that mirrors the arrival time does so at every later time. -/
theorem levelAt_add_ahead {c : Cadence} {b : Bucket} {arrival : UInt64} (h : b.Mirrors c arrival)
    {now : Nat} (hnow : b.since ≤ now) :
  b.levelAt c now + (arrival.toNat - now) = full c
  := by
  simp only [Mirrors] at h
  simp only [levelAt]
  omega

/-- One request: the bucket decides as the cadence does, and still mirrors the arrival time. -/
theorem offer_mirrors {c : Cadence} {b : Bucket} {now arrival : UInt64} (h : b.Mirrors c arrival)
    (hnow : b.since ≤ now.toNat) (fits : now.toNat + full c < 18446744073709551616) :
  (b.offer c now.toNat).1 = (c.offer now arrival).1 ∧
    (b.offer c now.toNat).2.Mirrors c (c.offer now arrival).2 ∧
    (b.offer c now.toNat).2.since = now.toNat
  := by
  have hlevel := levelAt_add_ahead h hnow
  have hadmits := c.admits_iff now arrival
  simp only [full] at hlevel fits
  by_cases hok : c.interval.toNat ≤ b.levelAt c now.toNat
  · have hle : arrival.toNat ≤ now.toNat + c.tolerance.toNat := by omega
    have hcharge := c.toNat_charge now arrival (by omega)
    rw [offer, if_pos hok, Cadence.offer, if_pos (hadmits.mpr hle)]
    constructor
    · rfl
    · constructor
      · simp only [Mirrors, full]
        omega
      · rfl
  · have hlt : ¬ arrival.toNat ≤ now.toNat + c.tolerance.toNat := by omega
    rw [offer, if_neg hok, Cadence.offer, if_neg (fun hc => hlt (hadmits.mp hc))]
    constructor
    · rfl
    · constructor
      · simp only [Mirrors, full]
        omega
      · rfl

/-- Requests in order: the bucket decides as the cadence does. -/
theorem decisions_eq_of_mirrors {c : Cadence} (calls : List UInt64) :
    ∀ {b : Bucket} {arrival : UInt64}, b.Mirrors c arrival → (∀ now ∈ calls, b.since ≤ now.toNat) →
      calls.Pairwise (· ≤ ·) → (∀ now ∈ calls, now.toNat + full c < 18446744073709551616) →
      (c.offerAll arrival calls).1 = b.decisions c (calls.map UInt64.toNat)
  := by
  induction calls with
  | nil =>
      intro b arrival h hsince sorted fits
      rfl
  | cons now later ih =>
      intro b arrival h hsince sorted fits
      obtain ⟨hfirst, hlater⟩ := List.pairwise_cons.mp sorted
      obtain ⟨hdecision, hmirrors, hnow⟩ :=
        offer_mirrors h (hsince now List.mem_cons_self) (fits now List.mem_cons_self)
      have hrest := ih hmirrors
        (by
          intro next hnext
          rw [hnow]
          apply UInt64.le_iff_toNat_le.mp (hfirst next hnext))
        hlater (fun next hnext => fits next (List.mem_cons_of_mem now hnext))
      change (c.offer now arrival).1 :: (c.offerAll (c.offer now arrival).2 later).1 = _
      rw [hrest, ← hdecision]
      rfl

end Bucket

/-- Requests in order are decided as by a bucket, when the arrival time starts at the tolerance. -/
theorem Cadence.offerAll_eq_decisions (c : Cadence) {calls : List UInt64}
    (sorted : calls.Pairwise (· ≤ ·))
    (fits : ∀ now ∈ calls,
      now.toNat + c.tolerance.toNat + c.interval.toNat < 18446744073709551616) :
  (c.offerAll c.tolerance calls).1 = (Bucket.fresh c).decisions c (calls.map UInt64.toNat)
  := by
  apply Bucket.decisions_eq_of_mirrors calls (Bucket.mirrors_fresh c) _ sorted
  · intro now hnow
    rw [Bucket.full, ← Nat.add_assoc]
    apply fits now hnow
  · intro now hnow
    apply Nat.zero_le

/-- A limiter that was just made decides about requests in order as a bucket does. -/
theorem Limiter.acquireAll_start_eq_decisions {α : Type} [Scalar α] (rate burst : α) (origin : Nat)
    {instants : List Nat} (sorted : instants.Pairwise (· ≤ ·))
    (fits : ∀ now ∈ instants, now - origin + (Pace.ofRate rate burst).tolerance.toNat +
      (Pace.ofRate rate burst).interval.toNat < 18446744073709551616) :
  ((start rate burst origin).acquireAll instants).1 =
    (Bucket.fresh (Pace.ofRate rate burst).toCadence).decisions
      (Pace.ofRate rate burst).toCadence (instants.map (· - origin))
  := by
  obtain ⟨calls, htimes, hsorted, hfits, hdecisions⟩ := exists_calls_start rate burst sorted fits
  rw [hdecisions, ← htimes]
  apply Cadence.offerAll_eq_decisions _ hsorted hfits

/-- Requests in order are decided as by a bucket that fills up with time: by a cadence whose arrival
time starts at the tolerance, and by a limiter from its start at its own pace. -/
theorem decisions_eq_bucket :
  (∀ (c : Cadence) (calls : List UInt64), calls.Pairwise (· ≤ ·) →
    (∀ now ∈ calls, now.toNat + c.tolerance.toNat + c.interval.toNat < 18446744073709551616) →
    (c.offerAll c.tolerance calls).1 =
      (Bucket.fresh c).decisions c (calls.map UInt64.toNat)) ∧
  (∀ {α : Type} [Scalar α] (rate burst : α) (origin : Nat) (instants : List Nat),
    instants.Pairwise (· ≤ ·) →
    (∀ now ∈ instants, now - origin + (Pace.ofRate rate burst).tolerance.toNat +
      (Pace.ofRate rate burst).interval.toNat < 18446744073709551616) →
    ((Limiter.start rate burst origin).acquireAll instants).1 =
      (Bucket.fresh (Pace.ofRate rate burst).toCadence).decisions
        (Pace.ofRate rate burst).toCadence (instants.map (· - origin)))
  := by
  constructor
  · intro c calls sorted fits
    apply c.offerAll_eq_decisions sorted fits
  · intro α _ rate burst origin instants sorted fits
    apply Limiter.acquireAll_start_eq_decisions rate burst origin sorted fits

/-- A single token at first, a wait after each refusal, and a full bucket after a long silence; and
the same of a limiter of ten requests per second. -/
theorem decisions_eq_bucket_after_silence :
  ([0, 5, 10, 100, 100, 100, 100, 110] : List UInt64).Pairwise (· ≤ ·) ∧
  (∀ now ∈ ([0, 5, 10, 100, 100, 100, 100, 110] : List UInt64),
    now.toNat + 20 + 10 < 18446744073709551616) ∧
  ((⟨10, 20⟩ : Cadence).offerAll 20 [0, 5, 10, 100, 100, 100, 100, 110]).1 =
    (Bucket.fresh ⟨10, 20⟩).decisions ⟨10, 20⟩ [0, 5, 10, 100, 100, 100, 100, 110] ∧
  ([7, 50000007, 100000007, 2000000007, 2000000007] : List Nat).Pairwise (· ≤ ·) ∧
  (∀ now ∈ ([7, 50000007, 100000007, 2000000007, 2000000007] : List Nat),
    now - 7 + (Pace.ofRate (10.0 : Float) 1.0).tolerance.toNat +
      (Pace.ofRate (10.0 : Float) 1.0).interval.toNat < 18446744073709551616) ∧
  ((Limiter.start (10.0 : Float) 1.0 7).acquireAll
      [7, 50000007, 100000007, 2000000007, 2000000007]).1 =
    (Bucket.fresh (Pace.ofRate (10.0 : Float) 1.0).toCadence).decisions
      (Pace.ofRate (10.0 : Float) 1.0).toCadence [0, 50000000, 100000000, 2000000000, 2000000000]
  := by
  have hfits : ∀ now ∈ ([0, 5, 10, 100, 100, 100, 100, 110] : List UInt64),
      now.toNat + 20 + 10 < 18446744073709551616 := by
    simp only [List.forall_mem_cons, List.not_mem_nil, false_imp_iff, implies_true]
    decide
  have hpace : ∀ now ∈ ([7, 50000007, 100000007, 2000000007, 2000000007] : List Nat),
      now - 7 + (Pace.ofRate (10.0 : Float) 1.0).tolerance.toNat +
        (Pace.ofRate (10.0 : Float) 1.0).interval.toNat < 18446744073709551616 := by decide +kernel
  use by decide, hfits, decisions_eq_bucket.1 ⟨10, 20⟩ _ (by decide) hfits, by decide, hpace
  apply decisions_eq_bucket.2 10.0 1.0 7 _ (by decide) hpace

end QuotaShare
