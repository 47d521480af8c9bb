import Mathlib.Tactic.Use
import QuotaShare.Proofs.Limiter.Run

/-!
# No capacity is wasted

A limiter admits a request as soon as it can, and that is never worse than to hold back: of requests
in order it admits as many as any choice among them that would all be admitted on their own.  A run
over all requests and a run over the chosen ones do not decide alike, since a request that is not
among the chosen ones may cost a later one its token.  But the arrival time of the first run is never
ahead by more than an interval for each request by which its count is ahead.
-/

namespace QuotaShare

namespace Cadence

variable {c : Cadence}

/-- Whether an arrival time is at `now` ahead of another one by at most an interval for each of `k`
requests. -/
def Ahead (c : Cadence) (k now : Nat) (arrival other : UInt64) : Prop :=
  arrival.toNat ≤ max other.toNat now + k * c.interval.toNat

/-! ### A single request -/

/-- What is ahead by so much stays ahead by no more while time passes. -/
theorem Ahead.mono {k now next : Nat} {arrival other : UInt64}
    (h : c.Ahead k now arrival other) (hnext : now ≤ next) :
  c.Ahead k next arrival other
  := by
  rw [Ahead] at h ⊢
  omega

/-- A request that only the one arrival time is charged with puts it ahead by one more. -/
theorem Ahead.charge_left {k : Nat} {now arrival other : UInt64}
    (h : c.Ahead k now.toNat arrival other) :
  c.Ahead (k + 1) now.toNat (c.charge now arrival) other
  := by
  have hcharge := c.charge_le now arrival
  rw [Ahead] at h ⊢
  rw [Nat.add_mul, Nat.one_mul]
  omega

/-- A request that both are charged with leaves them as far apart as they are. -/
theorem Ahead.charge_both {k : Nat} {now arrival other : UInt64}
    (h : c.Ahead k now.toNat arrival other)
    (fits : max other.toNat now.toNat + c.interval.toNat < 18446744073709551616) :
  c.Ahead k now.toNat (c.charge now arrival) (c.charge now other)
  := by
  have hcharge := c.charge_le now arrival
  rw [Ahead] at h ⊢
  rw [c.toNat_charge now other fits]
  omega

/-- A request that only the other is charged with, since the one is too far ahead, makes up for one
request by which the one is ahead. -/
theorem Ahead.charge_right {k : Nat} {now arrival other : UInt64}
    (h : c.Ahead k now.toNat arrival other) (hother : c.admits now other = true)
    (hrefused : c.admits now arrival = false)
    (fits : max other.toNat now.toNat + c.interval.toNat < 18446744073709551616) :
  ∃ j, k = j + 1 ∧ c.Ahead j now.toNat arrival (c.charge now other)
  := by
  have hle := (c.admits_iff now other).mp hother
  have hlt := (c.not_admits_iff now arrival).mp hrefused
  cases k with
  | zero =>
      -- An arrival time that is not ahead of one within the tolerance would not be refused.
      rw [Ahead, Nat.zero_mul] at h
      omega
  | succ j =>
      use j, rfl
      rw [Ahead, Nat.add_mul, Nat.one_mul] at h
      rw [Ahead, c.toNat_charge now other fits]
      omega

/-! ### Requests one after the other -/

/-- From an arrival time that is ahead of another one by `k` requests, at most `k` requests fewer are
admitted than are chosen among them, if the chosen ones are all admitted from the other. -/
theorem length_le_length_admitted_add {calls chosen : List UInt64} (hchosen : chosen.Sublist calls)
    (sorted : calls.Pairwise (· ≤ ·))
    (fits : ∀ now ∈ calls,
      now.toNat + c.tolerance.toNat + c.interval.toNat < 18446744073709551616)
    {since k : Nat} (hsince : ∀ now ∈ calls, since ≤ now.toNat) {arrival other : UInt64}
    (hahead : c.Ahead k since arrival other)
    (hall : (c.offerAll other chosen).1 = List.replicate chosen.length true) :
  chosen.length ≤ (c.admitted arrival calls).length + k
  := by
  -- By induction on the choice: a request that is left out can only put the one run further ahead,
  -- and one that is chosen puts the other run nearer only if the one refuses it.
  induction hchosen generalizing since arrival other k with
  | slnil => apply Nat.zero_le
  | @cons chosen later now _ ih =>
      obtain ⟨hfirst, hlater⟩ := List.pairwise_cons.mp sorted
      have hfits := fun next hnext => fits next (List.mem_cons_of_mem now hnext)
      have hnext := fun next hnext => UInt64.le_iff_toNat_le.mp (hfirst next hnext)
      have hnow := hahead.mono (hsince now List.mem_cons_self)
      cases h : c.admits now arrival with
      | false =>
          rw [admitted_of_not_admits h]
          apply ih hlater hfits hnext hnow hall
      | true =>
          have hrest := ih hlater hfits hnext hnow.charge_left hall
          rw [admitted_of_admits h, List.length_cons]
          omega
  | @cons_cons chosen later now _ ih =>
      obtain ⟨hfirst, hlater⟩ := List.pairwise_cons.mp sorted
      have hfits := fun next hnext => fits next (List.mem_cons_of_mem now hnext)
      have hnext := fun next hnext => UInt64.le_iff_toNat_le.mp (hfirst next hnext)
      have hnow := hahead.mono (hsince now List.mem_cons_self)
      have hword := fits now List.mem_cons_self
      cases hother : c.admits now other with
      | false =>
          rw [offerAll_of_not_admits hother] at hall
          cases (List.cons.inj hall).1
      | true =>
          have hle := (c.admits_iff now other).mp hother
          rw [offerAll_of_admits hother] at hall
          have hall := (List.cons.inj hall).2
          rw [List.length_cons]
          cases h : c.admits now arrival with
          | false =>
              obtain ⟨j, rfl, hj⟩ := hnow.charge_right hother h (by omega)
              have hrest := ih hlater hfits hnext hj hall
              rw [admitted_of_not_admits h]
              omega
          | true =>
              have hrest := ih hlater hfits hnext (hnow.charge_both (by omega)) hall
              rw [admitted_of_admits h, List.length_cons]
              omega

/-- Of requests in order at least as many are admitted as are chosen among them, if the chosen ones
would all be admitted on their own. -/
theorem length_le_length_admitted_self {calls chosen : List UInt64}
    (hchosen : chosen.Sublist calls) (sorted : calls.Pairwise (· ≤ ·))
    (fits : ∀ now ∈ calls,
      now.toNat + c.tolerance.toNat + c.interval.toNat < 18446744073709551616) (arrival : UInt64)
    (hall : (c.offerAll arrival chosen).1 = List.replicate chosen.length true) :
  chosen.length ≤ (c.admitted arrival calls).length
  := by
  have hahead : c.Ahead 0 0 arrival arrival := by
    rw [Ahead]
    omega
  apply length_le_length_admitted_add hchosen sorted fits (fun now _ => Nat.zero_le _) hahead hall

end Cadence

/-- Of requests in order at least as many are admitted as are chosen among them, if the chosen ones
would all be admitted on their own: by a cadence whose arrival time starts at the tolerance, and by a
limiter from its start at its own pace. -/
theorem length_le_length_admitted :
  (∀ (c : Cadence) (calls chosen : List UInt64), calls.Pairwise (· ≤ ·) →
    (∀ now ∈ calls, now.toNat + c.tolerance.toNat + c.interval.toNat < 18446744073709551616) →
    chosen.Sublist calls →
    (c.offerAll c.tolerance chosen).1 = List.replicate chosen.length true →
    chosen.length ≤ (c.admitted c.tolerance calls).length) ∧
  (∀ {α : Type} [Scalar α] (rate burst : α) (origin : Nat) (instants chosen : List Nat),
    instants.Pairwise (· ≤ ·) →
    (∀ now ∈ instants, now - origin + (Pace.ofRate rate burst).tolerance.toNat +
      (Pace.ofRate rate burst).interval.toNat < 18446744073709551616) →
    chosen.Sublist instants →
    ((Limiter.start rate burst origin).acquireAll chosen).1 =
      List.replicate chosen.length true →
    chosen.length ≤ ((Limiter.start rate burst origin).admitted instants).length)
  := by
  constructor
  · intro c calls chosen sorted fits hchosen hall
    apply Cadence.length_le_length_admitted_self hchosen sorted fits c.tolerance hall
  · intro α _ rate burst origin instants chosen sorted fits hchosen hall
    let l := Limiter.start rate burst origin
    have hword : ∀ now ∈ instants, now - l.origin < 18446744073709551616 := by
      intro now hnow
      have h := fits now hnow
      change now - origin < 18446744073709551616
      omega
    have hlength : chosen.length = (chosen.map l.elapsed).length := by rw [List.length_map]
    rw [Limiter.acquireAll_eq, hlength] at hall
    rw [Limiter.admitted_eq, hlength]
    apply Cadence.length_le_length_admitted_self (hchosen.map l.elapsed)
      (l.pairwise_elapsed sorted hword) _ l.arrival hall
    apply l.forall_elapsed hword (P := fun now =>
      now + l.pace.tolerance.toNat + l.pace.interval.toNat < 18446744073709551616) fits

/-- A burst that takes the tokens of the requests after it, where the chosen requests are other ones
than those that are admitted; and a limiter of ten requests per second, of whose requests only one
in each tenth of a second can be admitted. -/
theorem length_le_length_admitted_of_burst :
  ([0, 0, 10, 12, 20, 20, 31] : List UInt64).Pairwise (· ≤ ·) ∧
  (∀ now ∈ ([0, 0, 10, 12, 20, 20, 31] : List UInt64),
    now.toNat + 5 + 10 < 18446744073709551616) ∧
  ([0, 12, 20, 31] : List UInt64).Sublist [0, 0, 10, 12, 20, 20, 31] ∧
  ((⟨10, 5⟩ : Cadence).offerAll 5 [0, 12, 20, 31]).1 = List.replicate 4 true ∧
  4 ≤ ((⟨10, 5⟩ : Cadence).admitted 5 [0, 0, 10, 12, 20, 20, 31]).length ∧
  ([7, 50000007, 100000007, 150000007, 210000007] : List Nat).Pairwise (· ≤ ·) ∧
  (∀ now ∈ ([7, 50000007, 100000007, 150000007, 210000007] : List Nat),
    now - 7 + (Pace.ofRate (10.0 : Float) 1.0).tolerance.toNat +
      (Pace.ofRate (10.0 : Float) 1.0).interval.toNat < 18446744073709551616) ∧
  ([50000007, 150000007] : List Nat).Sublist [7, 50000007, 100000007, 150000007, 210000007] ∧
  ((Limiter.start (10.0 : Float) 1.0 7).acquireAll [50000007, 150000007]).1 =
    List.replicate 2 true ∧
  2 ≤ ((Limiter.start (10.0 : Float) 1.0 7).admitted
    [7, 50000007, 100000007, 150000007, 210000007]).length
  := by
  have hfits : ∀ now ∈ ([0, 0, 10, 12, 20, 20, 31] : List UInt64),
      now.toNat + 5 + 10 < 18446744073709551616 := by
    simp only [List.forall_mem_cons, List.not_mem_nil, false_imp_iff, implies_true]
    decide
  have hpace : ∀ now ∈ ([7, 50000007, 100000007, 150000007, 210000007] : List Nat),
      now - 7 + (Pace.ofRate (10.0 : Float) 1.0).tolerance.toNat +
        (Pace.ofRate (10.0 : Float) 1.0).interval.toNat < 18446744073709551616 := by decide +kernel
  have hall : ((⟨10, 5⟩ : Cadence).offerAll 5 [0, 12, 20, 31]).1 = List.replicate 4 true := by
    decide
  have hlimiter : ((Limiter.start (10.0 : Float) 1.0 7).acquireAll [50000007, 150000007]).1 =
      List.replicate 2 true := by
    decide +kernel
  use by decide, hfits, by decide, hall,
    length_le_length_admitted.1 ⟨10, 5⟩ _ [0, 12, 20, 31] (by decide) hfits (by decide) hall,
    by decide, hpace, by decide, hlimiter
  apply length_le_length_admitted.2 10.0 1.0 7 _ [50000007, 150000007] (by decide) hpace (by decide)
    hlimiter

end QuotaShare
