import Mathlib.Tactic.Use
import QuotaShare.Proofs.Limiter.Run

/-!
# The requests that are admitted in a window

However requests follow each other, and whatever the arrival time is at first, only so many of those
that are made within a window of time are admitted: one for each interval that fits into the window
and the tolerance together, and one more.  The times of the requests need not be in order.
-/

namespace QuotaShare

/-- Whether a time lies in the window from `s` to `t`. -/
def within (s t : Nat) (now : UInt64) : Bool :=
  decide (s ≤ now.toNat) && decide (now.toNat ≤ t)

theorem within_iff {s t : Nat} {now : UInt64} :
  within s t now = true ↔ s ≤ now.toNat ∧ now.toNat ≤ t
  := by
  simp only [within, Bool.and_eq_true, decide_eq_true_eq]

/-- Each request that is admitted in a window takes an interval from what lies between the arrival
time, or the start of the window, and the last arrival time at which the window admits. -/
theorem Cadence.add_countP_admitted_le (c : Cadence) (calls : List UInt64) (s t : Nat)
    (fits : t + c.tolerance.toNat + c.interval.toNat < 18446744073709551616) (arrival : UInt64) :
  (c.admitted arrival calls).countP (within s t) = 0 ∨
    max arrival.toNat s + (c.admitted arrival calls).countP (within s t) * c.interval.toNat ≤
      t + c.tolerance.toNat + c.interval.toNat
  := by
  induction calls generalizing arrival with
  | nil => exact .inl rfl
  | cons now later ih =>
      cases h : c.admits now arrival with
      | false =>
          rw [admitted_of_not_admits h]
          apply ih
      | true =>
          have hnow := (c.admits_iff now arrival).mp h
          have ih := ih (c.charge now arrival)
          rw [admitted_of_admits h]
          cases hw : within s t now with
          | false =>
              rw [List.countP_cons_of_neg (by rw [hw]; exact Bool.false_ne_true)]
              have hle := c.le_charge now arrival
              omega
          | true =>
              obtain ⟨hs, ht⟩ := within_iff.mp hw
              -- The window keeps the charge clear of the largest word.
              have hcharge := c.toNat_charge now arrival (by omega)
              rw [List.countP_cons_of_pos hw, Nat.add_mul, Nat.one_mul]
              right
              obtain hzero | hle := ih
              · rw [hzero]
                omega
              · omega

theorem Cadence.countP_admitted_le (c : Cadence) (hc : 1 ≤ c.interval) (arrival : UInt64)
    (calls : List UInt64) (s t : Nat)
    (fits : t + c.tolerance.toNat + c.interval.toNat < 18446744073709551616) :
  (c.admitted arrival calls).countP (within s t) ≤
    1 + (t - s + c.tolerance.toNat) / c.interval.toNat
  := by
  have hpos : 0 < c.interval.toNat := UInt64.le_iff_toNat_le.mp hc
  obtain hzero | hle := c.add_countP_admitted_le calls s t fits arrival
  · rw [hzero]
    apply Nat.zero_le
  · have hmul : ((c.admitted arrival calls).countP (within s t) - 1) * c.interval.toNat ≤
        t - s + c.tolerance.toNat := by
      rw [Nat.sub_mul, Nat.one_mul]
      omega
    have hdiv := (Nat.le_div_iff_mul_le hpos).mpr hmul
    omega

/-- In a window from `s` to `t`, at most one request more is admitted than intervals fit into the
window and the tolerance together: by a cadence from every arrival time, and by a limiter in every
state at its own pace. -/
theorem admitted_within_le (s t : Nat) :
  (∀ (c : Cadence) (arrival : UInt64) (calls : List UInt64), 1 ≤ c.interval →
    t + c.tolerance.toNat + c.interval.toNat < 18446744073709551616 →
    (c.admitted arrival calls).countP (within s t) ≤
      1 + (t - s + c.tolerance.toNat) / c.interval.toNat) ∧
  (∀ {α : Type} [Scalar α] (l : Limiter α) (instants : List Nat),
    t + l.pace.tolerance.toNat + l.pace.interval.toNat < 18446744073709551616 →
    (l.admitted instants).countP (within s t) ≤
      1 + (t - s + l.pace.tolerance.toNat) / l.pace.interval.toNat)
  := by
  constructor
  · intro c arrival calls hc fits
    apply c.countP_admitted_le hc arrival calls s t fits
  · intro α _ l instants fits
    rw [l.admitted_eq]
    apply Cadence.countP_admitted_le _ (Pace.one_le_interval _ _) _ _ _ _ fits

/-- A burst, requests out of order and one more after an interval, where the bound is reached; and
a second of a limiter of ten requests per second. -/
theorem admitted_within_burst_le :
  1 ≤ (⟨10, 20⟩ : Cadence).interval ∧ 110 + 20 + 10 < 18446744073709551616 ∧
  ((⟨10, 20⟩ : Cadence).admitted 40 [100, 100, 90, 100, 110, 105]).countP (within 100 110) ≤
    1 + (110 - 100 + 20) / 10 ∧
  110 + (Limiter.start (10.0 : Float) 1.0 0).pace.tolerance.toNat +
    (Limiter.start (10.0 : Float) 1.0 0).pace.interval.toNat < 18446744073709551616 ∧
  ((Limiter.start (10.0 : Float) 1.0 0).admitted [105, 100, 300]).countP (within 100 110) ≤
    1 + (110 - 100 + (Limiter.start (10.0 : Float) 1.0 0).pace.tolerance.toNat) /
      (Limiter.start (10.0 : Float) 1.0 0).pace.interval.toNat
  := by
  have hpace : 110 + (Limiter.start (10.0 : Float) 1.0 0).pace.tolerance.toNat +
      (Limiter.start (10.0 : Float) 1.0 0).pace.interval.toNat < 18446744073709551616 := by
    decide +kernel
  use by decide, by decide,
    (admitted_within_le 100 110).1 ⟨10, 20⟩ 40 _ (by decide) (by decide), hpace
  apply (admitted_within_le 100 110).2 (Limiter.start (10.0 : Float) 1.0 0) _ hpace

end QuotaShare
