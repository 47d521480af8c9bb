import Mathlib.Tactic.Use
import QuotaShare.Proofs.Limiter.Run

/-!
# The wait after a refusal

A client that was refused need not wait longer than the time in which one token accrues, however
often it asks in between, unless another request takes the token.  For no request leads to an arrival
time further ahead than the tolerance and one interval, so an interval later the arrival time is
within the tolerance.
-/

namespace QuotaShare

namespace Cadence

variable {c : Cadence}

/-! ### How far ahead the arrival time can be -/

/-- After a request at `now` the arrival time is at most an interval further ahead than the tolerance,
if it was so before. -/
theorem offer_le {now arrival : UInt64}
    (h : arrival.toNat ≤ now.toNat + c.tolerance.toNat + c.interval.toNat) :
  (c.offer now arrival).2.toNat ≤ now.toNat + c.tolerance.toNat + c.interval.toNat
  := by
  cases hadmits : c.admits now arrival with
  | false =>
      rw [offer_of_not_admits hadmits]
      apply h
  | true =>
      have hle := (c.admits_iff now arrival).mp hadmits
      have hcharge := c.charge_le now arrival
      rw [offer_of_admits hadmits]
      change (c.charge now arrival).toNat ≤ _
      omega

/-! ### Requests after a refusal -/

theorem getElem?_offerAll_succ (arrival now : UInt64) (later : List UInt64) (k : Nat) :
  (c.offerAll arrival (now :: later)).1[k + 1]? =
    (c.offerAll (c.offer now arrival).2 later).1[k]?
  := rfl

/-- As long as requests are refused the arrival time stays as it is, so that the next one is decided
from the same arrival time. -/
theorem getElem?_offerAll_of_refused {calls : List UInt64} {arrival : UInt64} {j : Nat}
    (hj : j < calls.length)
    (hrefused : ∀ k < j, (c.offerAll arrival calls).1[k]? = some false) :
  (c.offerAll arrival calls).1[j]? = some (c.admits calls[j] arrival)
  := by
  induction calls generalizing j with
  | nil => cases hj
  | cons now later ih =>
      cases j with
      | zero =>
          cases h : c.admits now arrival with
          | false => rw [offerAll_of_not_admits h, List.getElem_cons_zero, h]; rfl
          | true => rw [offerAll_of_admits h, List.getElem_cons_zero, h]; rfl
      | succ j =>
          cases h : c.admits now arrival with
          | false =>
              rw [offerAll_of_not_admits h] at hrefused ⊢
              apply ih (Nat.lt_of_succ_lt_succ hj)
              intro k hk
              apply hrefused (k + 1) (Nat.succ_lt_succ hk)
          | true =>
              have hfirst := hrefused 0 (Nat.zero_lt_succ j)
              rw [offerAll_of_admits h] at hfirst
              cases hfirst

/-- Among requests in order, one that comes at least an interval after a refusal is admitted, if all
requests in between are refused. -/
theorem getElem?_offerAll_of_wait {calls : List UInt64} (sorted : calls.Pairwise (· ≤ ·))
    {arrival : UInt64}
    (hle : ∀ now ∈ calls, arrival.toNat ≤ now.toNat + c.tolerance.toNat + c.interval.toNat)
    {i j : Nat} (hij : i ≤ j) (hj : j < calls.length)
    (hrefused : ∀ k, i ≤ k → k < j → (c.offerAll arrival calls).1[k]? = some false)
    (hwait : calls[i].toNat + c.interval.toNat ≤ calls[j].toNat) :
  (c.offerAll arrival calls).1[j]? = some true
  := by
  induction calls generalizing arrival i j with
  | nil => cases hj
  | cons now later ih =>
      obtain ⟨hfirst, hlater⟩ := List.pairwise_cons.mp sorted
      cases i with
      | zero =>
          -- The first request is the refused one, and the arrival time is the same at the last one.
          have hnow := hle now List.mem_cons_self
          rw [getElem?_offerAll_of_refused hj fun k hk => hrefused k (Nat.zero_le k) hk,
            (c.admits_iff _ arrival).mpr]
          rw [List.getElem_cons_zero] at hwait
          omega
      | succ i =>
          cases j with
          | zero => cases hij
          | succ j =>
              rw [getElem?_offerAll_succ]
              apply ih hlater _ (Nat.le_of_succ_le_succ hij) (Nat.lt_of_succ_lt_succ hj) _ hwait
              · intro next hnext
                have hnow := offer_le (hle now List.mem_cons_self)
                have hnext := UInt64.le_iff_toNat_le.mp (hfirst next hnext)
                omega
              · intro k hik hkj
                apply hrefused (k + 1) (Nat.succ_le_succ hik) (Nat.succ_lt_succ hkj)

end Cadence

/-- Among requests in order, one that comes at least an interval after a refusal is admitted, if no
request in between was: by a cadence whose arrival time starts at the tolerance, and by a limiter from
its start at its own pace. -/
theorem admitted_an_interval_after_refusal :
  (∀ (c : Cadence) (calls : List UInt64), calls.Pairwise (· ≤ ·) →
    ∀ (i j : Nat) (hij : i < j) (hj : j < calls.length),
      (∀ k, i ≤ k → k < j → (c.offerAll c.tolerance calls).1[k]? = some false) →
      calls[i].toNat + c.interval.toNat ≤ calls[j].toNat →
      (c.offerAll c.tolerance calls).1[j]? = some true) ∧
  (∀ {α : Type} [Scalar α] (rate burst : α) (origin : Nat) (instants : List Nat),
    instants.Pairwise (· ≤ ·) → (∀ now ∈ instants, now - origin < 18446744073709551616) →
    ∀ (i j : Nat) (hij : i < j) (hj : j < instants.length),
      (∀ k, i ≤ k → k < j →
        ((Limiter.start rate burst origin).acquireAll instants).1[k]? = some false) →
      instants[i] - origin + (Pace.ofRate rate burst).interval.toNat ≤ instants[j] - origin →
      ((Limiter.start rate burst origin).acquireAll instants).1[j]? = some true)
  := by
  have hstart : ∀ (c : Cadence) (now : Nat),
      c.tolerance.toNat ≤ now + c.tolerance.toNat + c.interval.toNat := by
    intro c now
    omega
  constructor
  · intro c calls sorted i j hij hj hrefused hwait
    apply c.getElem?_offerAll_of_wait sorted (fun now _ => hstart c now.toNat) (Nat.le_of_lt hij) hj
      hrefused hwait
  · intro α _ rate burst origin instants sorted fits i j hij hj hrefused hwait
    let l := Limiter.start rate burst origin
    rw [Limiter.acquireAll_eq] at hrefused ⊢
    have hlength : (instants.map l.elapsed).length = instants.length := List.length_map ..
    apply Cadence.getElem?_offerAll_of_wait (l.pairwise_elapsed sorted fits)
      (fun now _ => hstart _ now.toNat) (Nat.le_of_lt hij) (by rw [hlength]; exact hj) hrefused
    rw [List.getElem_map, List.getElem_map, l.toNat_elapsed (fits _ (List.getElem_mem _)),
      l.toNat_elapsed (fits _ (List.getElem_mem _))]
    apply hwait

/-- Refusals after a burst, from the first of which it takes a whole interval until a request is
admitted; and a limiter of ten requests per second that refuses two requests. -/
theorem admitted_an_interval_after_burst :
  ([100, 100, 100, 100, 105, 109, 110] : List UInt64).Pairwise (· ≤ ·) ∧
  (∀ k, 3 ≤ k → k < 6 →
    ((⟨10, 20⟩ : Cadence).offerAll 20 [100, 100, 100, 100, 105, 109, 110]).1[k]? = some false) ∧
  100 + 10 ≤ 110 ∧
  ((⟨10, 20⟩ : Cadence).offerAll 20 [100, 100, 100, 100, 105, 109, 110]).1[6]? = some true ∧
  ([7, 50000007, 80000007, 150000007] : List Nat).Pairwise (· ≤ ·) ∧
  (∀ now ∈ ([7, 50000007, 80000007, 150000007] : List Nat), now - 7 < 18446744073709551616) ∧
  (∀ k, 1 ≤ k → k < 3 → ((Limiter.start (10.0 : Float) 1.0 7).acquireAll
    [7, 50000007, 80000007, 150000007]).1[k]? = some false) ∧
  50000007 - 7 + (Pace.ofRate (10.0 : Float) 1.0).interval.toNat ≤ 150000007 - 7 ∧
  ((Limiter.start (10.0 : Float) 1.0 7).acquireAll
    [7, 50000007, 80000007, 150000007]).1[3]? = some true
  := by
  have hrefused : ∀ k, 3 ≤ k → k < 6 → ((⟨10, 20⟩ : Cadence).offerAll 20
      [100, 100, 100, 100, 105, 109, 110]).1[k]? = some false := by
    intro k hlow hhigh
    obtain rfl | rfl | rfl : k = 3 ∨ k = 4 ∨ k = 5 := by omega
    all_goals rfl
  have hdecisions : ((Limiter.start (10.0 : Float) 1.0 7).acquireAll
      [7, 50000007, 80000007, 150000007]).1 = [true, false, false, true] := by
    decide +kernel
  have hlimiter : ∀ k, 1 ≤ k → k < 3 → ((Limiter.start (10.0 : Float) 1.0 7).acquireAll
      [7, 50000007, 80000007, 150000007]).1[k]? = some false := by
    intro k hlow hhigh
    rw [hdecisions]
    obtain rfl | rfl : k = 1 ∨ k = 2 := by omega
    all_goals rfl
  have hwait : 50000007 - 7 + (Pace.ofRate (10.0 : Float) 1.0).interval.toNat ≤ 150000007 - 7 := by
    decide +kernel
  use by decide, hrefused, by decide,
    admitted_an_interval_after_refusal.1 ⟨10, 20⟩ _ (by decide) 3 6 (by decide) (by decide) hrefused
      (by decide),
    by decide, by decide, hlimiter, hwait
  apply admitted_an_interval_after_refusal.2 10.0 1.0 7 _ (by decide) (by decide) 1 3 (by decide)
    (by decide) hlimiter hwait

end QuotaShare
