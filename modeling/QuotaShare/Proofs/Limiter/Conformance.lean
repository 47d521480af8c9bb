import Mathlib.Tactic.Use
import QuotaShare.Proofs.Limiter.Run

/-!
# Requests that are all admitted

A client is never refused exactly when it keeps to the rate: it makes no more requests than tokens
have accrued since the start, and between any two of its requests no more than tokens have accrued
besides those that can be banked.  The arrival time is the latest of the times that the start and
the earlier requests lead to, one interval for each request since.
-/

namespace QuotaShare

namespace Cadence

/-- Whether requests at the given times keep to a cadence that starts with a single token. -/
structure Conforms (c : Cadence) (times : List Nat) : Prop where
  /-- As many tokens have accrued as there are earlier requests. -/
  accrued : ∀ j (hj : j < times.length), j * c.interval.toNat ≤ times[j]
  /-- Since an earlier request as many tokens have accrued as there are requests after it, apart from
  those within the tolerance. -/
  burst : ∀ i j (hij : i ≤ j) (hj : j < times.length),
    (j - i) * c.interval.toNat ≤ times[j] - times[i] + c.tolerance.toNat

/-- Whether each request comes at most the tolerance before the arrival time, which starts at
`arrival` and moves one interval ahead with every request. -/
def Reaches (c : Cadence) (arrival : Nat) (times : List Nat) : Prop :=
  ∀ j (hj : j < times.length), arrival + j * c.interval.toNat ≤ times[j] + c.tolerance.toNat

/-- Whether each time is late enough for all the times before it. -/
def Spaced (c : Cadence) : List Nat → Prop
  | [] => True
  | now :: later => c.Reaches (now + c.interval.toNat) later ∧ c.Spaced later

variable {c : Cadence}

/-! ### Arrival times that are reached -/

theorem reaches_nil (arrival : Nat) :
  c.Reaches arrival []
  := by
  intro j hj
  cases hj

theorem reaches_cons {arrival now : Nat} {later : List Nat} :
  c.Reaches arrival (now :: later) ↔
    arrival ≤ now + c.tolerance.toNat ∧ c.Reaches (arrival + c.interval.toNat) later
  := by
  constructor
  · intro h
    constructor
    · have hfirst := h 0 (Nat.zero_lt_succ _)
      rw [Nat.zero_mul] at hfirst
      apply hfirst
    · intro j hj
      have hnext := h (j + 1) (Nat.succ_lt_succ hj)
      rw [Nat.add_mul, Nat.one_mul, List.getElem_cons_succ] at hnext
      omega
  · rintro ⟨hfirst, hlater⟩ j hj
    cases j with
    | zero =>
        rw [Nat.zero_mul]
        apply hfirst
    | succ j =>
        have hnext := hlater j (Nat.lt_of_succ_lt_succ hj)
        rw [Nat.add_mul, Nat.one_mul, List.getElem_cons_succ]
        omega

/-- The later of two arrival times is reached when both are. -/
theorem reaches_max {a b : Nat} {times : List Nat} :
  c.Reaches (max a b) times ↔ c.Reaches a times ∧ c.Reaches b times
  := by
  constructor
  · intro h
    constructor
    · intro j hj
      have hmax := h j hj
      omega
    · intro j hj
      have hmax := h j hj
      omega
  · rintro ⟨ha, hb⟩ j hj
    have ha := ha j hj
    have hb := hb j hj
    omega

/-- Times are late enough for each other if the arrival time that follows any one of them is reached
by the later ones. -/
theorem spaced_iff {times : List Nat} :
  c.Spaced times ↔ ∀ i j (hij : i ≤ j) (hj : j < times.length),
    times[i] + (j - i) * c.interval.toNat ≤ times[j] + c.tolerance.toNat
  := by
  induction times with
  | nil =>
      constructor
      · intro _ i j _ hj
        cases hj
      · intro _
        trivial
  | cons now later ih =>
      have hfirst : c.Reaches (now + c.interval.toNat) later ↔ c.Reaches now (now :: later) := by
        rw [reaches_cons, and_iff_right (Nat.le_add_right now _)]
      rw [Spaced, hfirst, ih]
      constructor
      · rintro ⟨hnow, hlater⟩ i j hij hj
        cases i with
        | zero => apply hnow j hj
        | succ i =>
            cases j with
            | zero => cases hij
            | succ j =>
                rw [Nat.succ_sub_succ]
                apply hlater i j (Nat.le_of_succ_le_succ hij) (Nat.lt_of_succ_lt_succ hj)
      · intro h
        constructor
        · intro j hj
          apply h 0 j (Nat.zero_le j) hj
        · intro i j hij hj
          have hnext := h (i + 1) (j + 1) (Nat.succ_le_succ hij) (Nat.succ_lt_succ hj)
          rw [Nat.succ_sub_succ] at hnext
          apply hnext

/-- Times in order keep to a cadence when they reach the tolerance as an arrival time and are late
enough for each other. -/
theorem conforms_iff {times : List Nat} (sorted : times.Pairwise (· ≤ ·)) :
  c.Conforms times ↔ c.Reaches c.tolerance.toNat times ∧ c.Spaced times
  := by
  have hle : ∀ i j (hij : i ≤ j) (hj : j < times.length), times[i] ≤ times[j] := by
    intro i j hij hj
    obtain rfl | hlt := Nat.eq_or_lt_of_le hij
    · apply Nat.le_refl
    · apply List.pairwise_iff_getElem.mp sorted i j _ hj hlt
  rw [spaced_iff]
  constructor
  · rintro ⟨haccrued, hburst⟩
    constructor
    · intro j hj
      have h := haccrued j hj
      omega
    · intro i j hij hj
      have h := hburst i j hij hj
      have hle := hle i j hij hj
      omega
  · rintro ⟨hreaches, hspaced⟩
    constructor
    · intro j hj
      have h := hreaches j hj
      omega
    · intro i j hij hj
      have h := hspaced i j hij hj
      omega

/-! ### Decisions -/

/-- All requests are admitted when their times reach the arrival time and are late enough for each
other. -/
theorem offerAll_eq_replicate_iff (arrival : UInt64) {calls : List UInt64}
    (fits : ∀ now ∈ calls,
      now.toNat + c.tolerance.toNat + c.interval.toNat < 18446744073709551616) :
  (c.offerAll arrival calls).1 = List.replicate calls.length true ↔
    c.Reaches arrival.toNat (calls.map UInt64.toNat) ∧ c.Spaced (calls.map UInt64.toNat)
  := by
  induction calls generalizing arrival with
  | nil =>
      constructor
      · intro _
        use reaches_nil arrival.toNat
        trivial
      · intro _
        rfl
  | cons now later ih =>
      have hadmits := c.admits_iff now arrival
      rw [List.map_cons, reaches_cons, List.length_cons, List.replicate_succ]
      cases h : c.admits now arrival with
      | false =>
          rw [offerAll_of_not_admits h]
          constructor
          · intro hall
            cases (List.cons.inj hall).1
          · rintro ⟨⟨hle, _⟩, _⟩
            cases h.symm.trans (hadmits.mpr hle)
      | true =>
          have hle := hadmits.mp h
          have hnow := fits now List.mem_cons_self
          have hcharge := c.toNat_charge now arrival (by omega)
          have hmax : max arrival.toNat now.toNat + c.interval.toNat =
              max (arrival.toNat + c.interval.toNat) (now.toNat + c.interval.toNat) := by
            omega
          have ih := ih (c.charge now arrival) fun next hnext =>
            fits next (List.mem_cons_of_mem now hnext)
          rw [offerAll_of_admits h, List.cons.injEq, and_iff_right rfl, ih, hcharge, hmax,
            reaches_max, Spaced, and_iff_right hle, and_assoc]

/-- Requests in order are all admitted when they keep to the cadence, when the arrival time starts at
the tolerance. -/
theorem offerAll_tolerance_eq_replicate_iff {calls : List UInt64} (sorted : calls.Pairwise (· ≤ ·))
    (fits : ∀ now ∈ calls,
      now.toNat + c.tolerance.toNat + c.interval.toNat < 18446744073709551616) :
  (c.offerAll c.tolerance calls).1 = List.replicate calls.length true ↔
    c.Conforms (calls.map UInt64.toNat)
  := by
  rw [offerAll_eq_replicate_iff c.tolerance fits, conforms_iff]
  apply List.pairwise_map.mpr
  apply sorted.imp
  intro now next
  apply UInt64.le_iff_toNat_le.mp

end Cadence

/-- Requests in order are all admitted if and only if they keep to the rate: by a cadence whose
arrival time starts at the tolerance, and by a limiter from its start at its own pace. -/
theorem all_admitted_iff_conforms :
  (∀ (c : Cadence) (calls : List UInt64), calls.Pairwise (· ≤ ·) →
    (∀ now ∈ calls, now.toNat + c.tolerance.toNat + c.interval.toNat < 18446744073709551616) →
    ((c.offerAll c.tolerance calls).1 = List.replicate calls.length true ↔
      c.Conforms (calls.map UInt64.toNat))) ∧
  (∀ {α : Type} [Scalar α] (rate burst : α) (origin : Nat) (instants : List Nat),
    instants.Pairwise (· ≤ ·) →
    (∀ now ∈ instants, now - origin + (Pace.ofRate rate burst).tolerance.toNat +
      (Pace.ofRate rate burst).interval.toNat < 18446744073709551616) →
    (((Limiter.start rate burst origin).acquireAll instants).1 =
        List.replicate instants.length true ↔
      (Pace.ofRate rate burst).Conforms (instants.map (· - origin))))
  := by
  constructor
  · intro c calls sorted fits
    apply Cadence.offerAll_tolerance_eq_replicate_iff sorted fits
  · intro α _ rate burst origin instants sorted fits
    obtain ⟨calls, htimes, hsorted, hfits, hdecisions⟩ :=
      Limiter.exists_calls_start rate burst sorted fits
    have hlength : instants.length = calls.length := by
      rw [← List.length_map (· - origin), ← htimes, List.length_map]
    rw [hdecisions, hlength, ← htimes]
    apply Cadence.offerAll_tolerance_eq_replicate_iff hsorted hfits

/-- A burst after a silence, with one more request as soon as a token has accrued; and a second
request of a limiter of ten requests per second, made before a token has accrued. -/
theorem all_admitted_iff_conforms_of_burst :
  ([0, 10, 50, 50, 50, 60] : List UInt64).Pairwise (· ≤ ·) ∧
  (∀ now ∈ ([0, 10, 50, 50, 50, 60] : List UInt64),
    now.toNat + 20 + 10 < 18446744073709551616) ∧
  ((⟨10, 20⟩ : Cadence).offerAll 20 [0, 10, 50, 50, 50, 60]).1 = List.replicate 6 true ∧
  (⟨10, 20⟩ : Cadence).Conforms [0, 10, 50, 50, 50, 60] ∧
  ([7, 50000007] : List Nat).Pairwise (· ≤ ·) ∧
  (∀ now ∈ ([7, 50000007] : List Nat),
    now - 7 + (Pace.ofRate (10.0 : Float) 1.0).tolerance.toNat +
      (Pace.ofRate (10.0 : Float) 1.0).interval.toNat < 18446744073709551616) ∧
  ((Limiter.start (10.0 : Float) 1.0 7).acquireAll [7, 50000007]).1 ≠ List.replicate 2 true ∧
  ¬ (Pace.ofRate (10.0 : Float) 1.0).Conforms [0, 50000000]
  := by
  have hfits : ∀ now ∈ ([0, 10, 50, 50, 50, 60] : List UInt64),
      now.toNat + 20 + 10 < 18446744073709551616 := by
    simp only [List.forall_mem_cons, List.not_mem_nil, false_imp_iff, implies_true]
    decide
  have hall : ((⟨10, 20⟩ : Cadence).offerAll 20 [0, 10, 50, 50, 50, 60]).1 =
      List.replicate 6 true := by
    decide
  have hpace : ∀ now ∈ ([7, 50000007] : List Nat),
      now - 7 + (Pace.ofRate (10.0 : Float) 1.0).tolerance.toNat +
        (Pace.ofRate (10.0 : Float) 1.0).interval.toNat < 18446744073709551616 := by decide +kernel
  have hrefused : ((Limiter.start (10.0 : Float) 1.0 7).acquireAll [7, 50000007]).1 ≠
      List.replicate 2 true := by
    decide +kernel
  use by decide, hfits, hall, (all_admitted_iff_conforms.1 ⟨10, 20⟩ _ (by decide) hfits).mp hall,
    by decide, hpace, hrefused
  intro h
  apply hrefused
  apply (all_admitted_iff_conforms.2 10.0 1.0 7 _ (by decide) hpace).mpr h

end QuotaShare
