import Mathlib.Data.Rat.Floor
import Mathlib.Tactic.Linarith
import Mathlib.Tactic.Ring
import Mathlib.Tactic.Use
import QuotaShare.Proofs.Limiter.Run

/-!
# Tokens at a changing rate

In exact arithmetic a limiter has as many tokens as its capacity less one for each interval that the
arrival time lies ahead.  They are never negative, whatever requests and changes of rate there were.
A change of rate keeps them, as far as they fit the new capacity, and rounds them up by less than what
accrues in a nanosecond; and as many requests as there are whole tokens are then admitted in a row.
-/

namespace QuotaShare

/-! ### Rational numbers as scalars -/

theorem toNat_wordOfRat (x : Rat) :
  (wordOfRat x).toNat = min ⌊x⌋₊ 18446744073709551615
  := by
  rw [wordOfRat, Word.toNat_last]
  change min x.floor.toNat 18446744073709551615 % 18446744073709551616 = _
  rw [Nat.mod_eq_of_lt (by omega)]
  rfl

/-- What is cut off to a word is not made larger. -/
theorem toNat_wordOfRat_le {x : Rat} (h : 0 ≤ x) :
  ((wordOfRat x).toNat : Rat) ≤ x
  := by
  rw [toNat_wordOfRat]
  calc
    ((min ⌊x⌋₊ 18446744073709551615 : Nat) : Rat) ≤ ⌊x⌋₊ := Nat.cast_le.mpr (Nat.min_le_left _ _)
    _ ≤ x := Nat.floor_le h

/-- What is cut off to a word is the largest count below, if that is a word. -/
theorem le_toNat_wordOfRat_iff {x : Rat} (h : 0 ≤ x) (fits : x < 18446744073709551616) {n : Nat} :
  n ≤ (wordOfRat x).toNat ↔ (n : Rat) ≤ x
  := by
  have hfloor : ⌊x⌋₊ < 18446744073709551616 := (Nat.floor_lt h).mpr fits
  rw [toNat_wordOfRat, Nat.min_eq_left (Nat.le_of_lt_succ hfloor), Nat.le_floor_iff h]

/-- A count fits a word if it does so as a rational number. -/
theorem lt_of_cast_lt {n : Nat} (h : (n : Rat) < 18446744073709551616) :
  n < 18446744073709551616
  := by
  exact_mod_cast h

theorem Scalar.atLeast_eq_max (lo x : Rat) :
  atLeast lo x = max lo x
  := by
  rw [atLeast, max_def_lt]
  change (if decide (lo < x) = true then x else lo) = _
  simp only [decide_eq_true_eq]

theorem Scalar.clamp_eq_min (lo hi x : Rat) :
  clamp lo hi x = min hi (max x lo)
  := by
  rw [clamp, min_def_lt, max_def_lt]
  change (if decide (hi < if decide (x < lo) = true then lo else x) = true then hi
    else if decide (x < lo) = true then lo else x) = _
  simp only [decide_eq_true_eq]

namespace Pace

/-! ### Tokens -/

/-- Whether the parts of a pace belong together: tokens accrue, at least one fits, and the tolerance is
the time in which all the others accrue. -/
structure Proper (p : Pace Rat) : Prop where
  one_le_interval : 1 ≤ p.interval
  one_le_capacity : 1 ≤ p.capacity
  tolerance_eq : p.tolerance = wordOfRat ((p.capacity - 1) * p.interval.toNat)

theorem proper_ofRate (rate burst : Rat) :
  (ofRate rate burst).Proper
  where
  one_le_interval := Pace.one_le_interval rate burst
  one_le_capacity := by
    change 1 ≤ Scalar.atLeast ((1 : Nat) : Rat) _
    rw [Scalar.atLeast_eq_max, Nat.cast_one]
    apply le_max_left
  tolerance_eq := by
    rw [Pace.tolerance_eq]
    change wordOfRat ((_ - ((1 : Nat) : Rat)) * _) = _
    rw [Nat.cast_one]
    rfl

/-- The tokens at `now`: the capacity, less one for each interval that the arrival time lies ahead. -/
def tokens (p : Pace Rat) (now arrival : UInt64) : Rat :=
  p.capacity - ((arrival.toNat - now.toNat : Nat) : Rat) / p.interval.toNat

variable {p q : Pace Rat} {now arrival : UInt64}

theorem Proper.interval_pos (hp : p.Proper) :
  (0 : Rat) < p.interval.toNat
  := Nat.cast_pos.mpr (UInt64.le_iff_toNat_le.mp hp.one_le_interval)

/-- There are `x` tokens if the arrival time lies at most so far ahead as the others take to accrue. -/
theorem Proper.le_tokens_iff (hp : p.Proper) {x : Rat} :
  x ≤ p.tokens now arrival ↔
    ((arrival.toNat - now.toNat : Nat) : Rat) ≤ (p.capacity - x) * p.interval.toNat
  := by
  rw [tokens, le_sub_comm, div_le_iff₀ hp.interval_pos]

/-- Tokens accrue while time passes. -/
theorem Proper.tokens_mono (hp : p.Proper) {next : UInt64} (h : now ≤ next) (arrival : UInt64) :
  p.tokens now arrival ≤ p.tokens next arrival
  := by
  have hle := UInt64.le_iff_toNat_le.mp h
  rw [tokens, tokens]
  apply sub_le_sub_left
  apply div_le_div_of_nonneg_right _ hp.interval_pos.le
  apply Nat.cast_le.mpr
  omega

/-! ### Tokens are never negative -/

/-- The tolerance is at most the time in which all tokens but one accrue, less if that is no word. -/
theorem Proper.tolerance_le (hp : p.Proper) :
  (p.tolerance.toNat : Rat) ≤ (p.capacity - 1) * p.interval.toNat
  := by
  rw [hp.tolerance_eq]
  apply toNat_wordOfRat_le
  apply mul_nonneg (sub_nonneg.mpr hp.one_le_capacity) hp.interval_pos.le

/-- A limiter starts with at least one token. -/
theorem Proper.one_le_tokens_tolerance (hp : p.Proper) (now : UInt64) :
  1 ≤ p.tokens now p.tolerance
  := by
  apply hp.le_tokens_iff.mpr
  calc
    ((p.tolerance.toNat - now.toNat : Nat) : Rat) ≤ p.tolerance.toNat :=
      Nat.cast_le.mpr (Nat.sub_le _ _)
    _ ≤ (p.capacity - 1) * p.interval.toNat := hp.tolerance_le

/-- An admitted request takes no token that is not there. -/
theorem Proper.tokens_charge_nonneg (hp : p.Proper) (h : p.admits now arrival = true) :
  0 ≤ p.tokens now (p.charge now arrival)
  := by
  have hle := (p.admits_iff now arrival).mp h
  have hcharge := p.charge_le now arrival
  have hahead : (p.charge now arrival).toNat - now.toNat ≤
      p.tolerance.toNat + p.interval.toNat := by
    omega
  apply hp.le_tokens_iff.mpr
  calc
    (((p.charge now arrival).toNat - now.toNat : Nat) : Rat) ≤
        ((p.tolerance.toNat + p.interval.toNat : Nat) : Rat) := Nat.cast_le.mpr hahead
    _ = p.tolerance.toNat + p.interval.toNat := Nat.cast_add _ _
    _ ≤ (p.capacity - 1) * p.interval.toNat + p.interval.toNat :=
      add_le_add_left hp.tolerance_le _
    _ = (p.capacity - 0) * p.interval.toNat := by ring

/-! ### A change of pace -/

/-- What is banked is what there is, between nothing and the capacity. -/
theorem banked_eq (p : Pace Rat) (capacity : Rat) (now arrival : UInt64) :
  p.banked capacity now arrival = min capacity (max (p.tokens now arrival) 0)
  := by
  rw [banked, Word.toNat_max_sub, Scalar.clamp_eq_min]
  change min capacity (max (p.tokens now arrival) ((0 : Nat) : Rat)) = _
  rw [Nat.cast_zero]

/-- The time in which the tokens accrue that are missing to a full bucket after a change of pace. -/
def missing (p q : Pace Rat) (now arrival : UInt64) : Rat :=
  (q.capacity - p.banked q.capacity now arrival) * q.interval.toNat

theorem Proper.missing_nonneg (hq : q.Proper) (p : Pace Rat) (now arrival : UInt64) :
  0 ≤ p.missing q now arrival
  := by
  rw [missing, banked_eq]
  apply mul_nonneg (sub_nonneg.mpr (min_le_left _ _)) hq.interval_pos.le

theorem toNat_rebase (p q : Pace Rat) (now arrival : UInt64) :
  (p.rebase q now arrival).toNat =
    min (now.toNat + (wordOfRat (p.missing q now arrival)).toNat) 18446744073709551615
  := Word.toNat_addSat _ _

/-- A change of pace loses nothing of what is banked. -/
theorem Proper.banked_le_tokens_rebase (hq : q.Proper) (p : Pace Rat) (now arrival : UInt64) :
  p.banked q.capacity now arrival ≤ q.tokens now (p.rebase q now arrival)
  := by
  apply hq.le_tokens_iff.mpr
  have hrebase := toNat_rebase p q now arrival
  calc
    (((p.rebase q now arrival).toNat - now.toNat : Nat) : Rat) ≤
        (wordOfRat (p.missing q now arrival)).toNat := Nat.cast_le.mpr (by omega)
    _ ≤ p.missing q now arrival := toNat_wordOfRat_le (hq.missing_nonneg p now arrival)

/-- A change of pace adds less than what accrues in a nanosecond, if the words hold what is missing. -/
theorem Proper.tokens_rebase_lt (hq : q.Proper) (p : Pace Rat) (now arrival : UInt64)
    (fits : now.toNat + p.missing q now arrival < 18446744073709551616) :
  q.tokens now (p.rebase q now arrival) <
    p.banked q.capacity now arrival + 1 / q.interval.toNat
  := by
  have hrebase := toNat_rebase p q now arrival
  have hmissing := hq.missing_nonneg p now arrival
  -- Both the time that is missing and the arrival time it leads to are words, so nothing but the
  -- fraction of a nanosecond is cut off.
  have hlt : p.missing q now arrival < 18446744073709551616 :=
    lt_of_le_of_lt (le_add_of_nonneg_left (Nat.cast_nonneg _)) fits
  have hle := toNat_wordOfRat_le hmissing
  have hcut := (le_toNat_wordOfRat_iff hmissing hlt).not.mp (Nat.lt_irrefl _)
  generalize (wordOfRat (p.missing q now arrival)).toNat = refill at hrebase hle hcut
  have hword : now.toNat + refill < 18446744073709551616 := by
    apply lt_of_cast_lt
    rw [Nat.cast_add]
    exact lt_of_le_of_lt (add_le_add_right hle _) fits
  have hahead : (p.rebase q now arrival).toNat - now.toNat = refill := by omega
  rw [Nat.cast_succ, not_le, missing] at hcut
  rw [tokens, hahead, sub_lt_iff_lt_add, add_assoc, ← sub_lt_iff_lt_add', ← add_div,
    lt_div_iff₀ hq.interval_pos, add_comm]
  apply hcut

/-! ### Requests at one instant -/

/-- A request is admitted after `i` others at the same instant if there is a token left for it. -/
theorem Proper.lt_floor_tokens_iff (hp : p.Proper)
    (fits : (p.capacity - 1) * p.interval.toNat < 18446744073709551616) (i : Nat) :
  i < ⌊p.tokens now arrival⌋₊ ↔
    max arrival.toNat now.toNat + i * p.interval.toNat ≤ now.toNat + p.tolerance.toNat
  := by
  have htolerance : 0 ≤ (p.capacity - 1) * p.interval.toNat :=
    mul_nonneg (sub_nonneg.mpr hp.one_le_capacity) hp.interval_pos.le
  have hothers : (p.capacity - (i + 1 : Nat)) * p.interval.toNat =
      (p.capacity - 1) * p.interval.toNat - i * p.interval.toNat := by
    rw [Nat.cast_succ]
    ring
  calc
    i < ⌊p.tokens now arrival⌋₊ ↔ ((i + 1 : Nat) : Rat) ≤ p.tokens now arrival :=
      Nat.le_floor_iff' (Nat.succ_ne_zero i)
    _ ↔ ((arrival.toNat - now.toNat : Nat) : Rat) ≤
        (p.capacity - (i + 1 : Nat)) * p.interval.toNat := hp.le_tokens_iff
    _ ↔ ((arrival.toNat - now.toNat + i * p.interval.toNat : Nat) : Rat) ≤
        (p.capacity - 1) * p.interval.toNat := by
      rw [hothers, le_sub_iff_add_le, Nat.cast_add, Nat.cast_mul]
    _ ↔ arrival.toNat - now.toNat + i * p.interval.toNat ≤ p.tolerance.toNat := by
      rw [hp.tolerance_eq, le_toNat_wordOfRat_iff htolerance fits]
    _ ↔ max arrival.toNat now.toNat + i * p.interval.toNat ≤ now.toNat + p.tolerance.toNat := by
      omega

/-- Of requests at one instant as many are admitted as there are whole tokens, and the further ones
are refused, if the words hold the arrival times at which requests are admitted. -/
theorem Proper.offerAll_replicate (hp : p.Proper) (now arrival : UInt64)
    (fits : now.toNat + (p.capacity - 1) * p.interval.toNat + 1 < 18446744073709551616) (n : Nat) :
  (p.offerAll arrival (List.replicate n now)).1 =
    List.replicate (min n ⌊p.tokens now arrival⌋₊) true ++
      List.replicate (n - ⌊p.tokens now arrival⌋₊) false
  := by
  have hnow : (0 : Rat) ≤ now.toNat := Nat.cast_nonneg _
  have hword : now.toNat + p.tolerance.toNat + 1 < 18446744073709551616 := by
    have hle := hp.tolerance_le
    apply lt_of_cast_lt
    rw [Nat.cast_add, Nat.cast_add, Nat.cast_one]
    linarith
  apply Cadence.offerAll_replicate hword
  apply hp.lt_floor_tokens_iff
  linarith

end Pace

namespace Limiter

/-- The tokens of a limiter at `now`. -/
def tokens (l : Limiter Rat) (now : Nat) : Rat :=
  l.pace.tokens (l.elapsed now) l.arrival

/-- What can happen to a limiter. -/
inductive Action (α : Type) where
  /-- A request. -/
  | acquire (now : Nat)
  /-- A change of the rate. -/
  | setRate (rate : α) (now : Nat)

/-- The instant at which it happens. -/
def Action.instant {α : Type} : Action α → Nat
  | .acquire now => now
  | .setRate _ now => now

section

variable {α : Type} [Scalar α]

/-- The limiter after an action. -/
def perform (l : Limiter α) : Action α → Limiter α
  | .acquire now => (l.acquire now).2
  | .setRate rate now => l.setRate rate now

/-- The limiter after actions, one after the other. -/
def run (l : Limiter α) (actions : List (Action α)) : Limiter α :=
  actions.foldl perform l

/-- No action changes the origin or how many seconds' worth of tokens can be banked. -/
theorem fixed_perform (l : Limiter α) (action : Action α) :
  (l.perform action).origin = l.origin ∧ (l.perform action).burst = l.burst
  := by
  cases action with
  | acquire now => exact ⟨rfl, rfl⟩
  | setRate rate now =>
      rw [perform, setRate]
      split
      · exact ⟨rfl, rfl⟩
      · exact ⟨rfl, rfl⟩

theorem fixed_run (l : Limiter α) (actions : List (Action α)) :
  (l.run actions).origin = l.origin ∧ (l.run actions).burst = l.burst
  := by
  induction actions generalizing l with
  | nil => exact ⟨rfl, rfl⟩
  | cons action later ih =>
      have h := ih (l.perform action)
      rw [(l.fixed_perform action).1, (l.fixed_perform action).2] at h
      apply h

end

/-- An action that is not later than `now` leaves no negative number of tokens at `now`. -/
theorem tokens_perform_nonneg {l : Limiter Rat} {now : Nat} (h : 0 ≤ l.tokens now)
    (fits : now - l.origin < 18446744073709551616) {action : Action Rat}
    (haction : action.instant ≤ now) :
  0 ≤ (l.perform action).tokens now
  := by
  have helapsed : l.elapsed action.instant ≤ l.elapsed now := by
    rw [UInt64.le_iff_toNat_le, l.toNat_elapsed fits, l.toNat_elapsed (by omega)]
    omega
  have hp := Pace.proper_ofRate l.rate l.burst
  cases action with
  | acquire earlier =>
      cases hadmits : l.pace.admits (l.elapsed earlier) l.arrival with
      | false =>
          rw [perform, acquire, Cadence.offer_of_not_admits hadmits]
          apply h
      | true =>
          rw [perform, acquire, Cadence.offer_of_admits hadmits]
          apply le_trans (hp.tokens_charge_nonneg hadmits) (hp.tokens_mono helapsed _)
  | setRate rate earlier =>
      rw [perform, setRate]
      split
      · have hq := Pace.proper_ofRate rate l.burst
        have hbanked : 0 ≤ l.pace.banked (Pace.ofRate rate l.burst).capacity (l.elapsed earlier)
            l.arrival := by
          rw [Pace.banked_eq]
          apply le_min (le_trans zero_le_one hq.one_le_capacity) (le_max_right _ _)
        calc
          0 ≤ l.pace.banked _ (l.elapsed earlier) l.arrival := hbanked
          _ ≤ _ := hq.banked_le_tokens_rebase l.pace (l.elapsed earlier) l.arrival
          _ ≤ _ := hq.tokens_mono helapsed _
      · apply h

/-- Actions of which none is later than `now` leave no negative number of tokens at `now`. -/
theorem tokens_run_nonneg {l : Limiter Rat} {now : Nat} (h : 0 ≤ l.tokens now)
    (fits : now - l.origin < 18446744073709551616) {actions : List (Action Rat)}
    (order : ∀ action ∈ actions, action.instant ≤ now) :
  0 ≤ (l.run actions).tokens now
  := by
  induction actions generalizing l with
  | nil => apply h
  | cons action later ih =>
      obtain ⟨haction, hlater⟩ := List.forall_mem_cons.mp order
      apply ih (tokens_perform_nonneg h fits haction) _ hlater
      rw [(l.fixed_perform action).1]
      apply fits

/-- The limiter runs at the pace of a new rate. -/
theorem pace_setRate (l : Limiter Rat) {rate : Rat} (h : 0 < rate) (now : Nat) :
  (l.setRate rate now).pace = Pace.ofRate rate l.burst
  := by
  rw [setRate, if_pos (by exact decide_eq_true h)]
  rfl

/-- The limiter at a new rate has the tokens that the new pace has after the change. -/
theorem tokens_setRate (l : Limiter Rat) {rate : Rat} (h : 0 < rate) (now : Nat) :
  (l.setRate rate now).tokens now = (Pace.ofRate rate l.burst).tokens (l.elapsed now)
    (l.pace.rebase (Pace.ofRate rate l.burst) (l.elapsed now) l.arrival)
  := by
  rw [tokens, l.pace_setRate h, setRate, if_pos (by exact decide_eq_true h)]
  rfl

/-- As many requests at `now` are admitted as there are whole tokens. -/
theorem acquireAll_replicate (l : Limiter Rat) (now : Nat)
    (fits : (l.elapsed now).toNat + (l.pace.capacity - 1) * l.pace.interval.toNat + 1 <
      18446744073709551616) (n : Nat) :
  (l.acquireAll (List.replicate n now)).1 =
    List.replicate (min n ⌊l.tokens now⌋₊) true ++ List.replicate (n - ⌊l.tokens now⌋₊) false
  := by
  rw [acquireAll_eq, List.map_replicate]
  apply (Pace.proper_ofRate l.rate l.burst).offerAll_replicate _ _ fits

end Limiter

/-- After requests and changes of rate in any order, none later than `now`, the number of tokens at
`now` is not negative.  A change to a positive rate at `now` leaves at least the tokens that fit its
capacity and, unless the words are too small for what is missing, less than those and what accrues in
a nanosecond.  As many requests at `now` as there are then whole tokens are admitted and the further
ones are refused, unless the words are too small for the arrival times at which requests are
admitted. -/
theorem tokens_conserved (rate burst : Rat) (origin : Nat) {actions : List (Limiter.Action Rat)}
    {now : Nat} (order : ∀ action ∈ actions, action.instant ≤ now)
    (fits : now - origin < 18446744073709551616) :
  let l := (Limiter.start rate burst origin).run actions
  0 ≤ l.tokens now ∧
    ∀ next : Rat, 0 < next →
      let p := Pace.ofRate next burst
      let kept := min (l.tokens now) p.capacity
      let l' := l.setRate next now
      kept ≤ l'.tokens now ∧
        ((now - origin : Nat) + (p.capacity - kept) * p.interval.toNat < 18446744073709551616 →
          l'.tokens now < kept + 1 / p.interval.toNat) ∧
        ((now - origin : Nat) + (p.capacity - 1) * p.interval.toNat + 1 < 18446744073709551616 →
          ∀ n, (l'.acquireAll (List.replicate n now)).1 =
            List.replicate (min n ⌊l'.tokens now⌋₊) true ++
              List.replicate (n - ⌊l'.tokens now⌋₊) false)
  := by
  intro l
  obtain ⟨horigin, hburst⟩ : l.origin = origin ∧ l.burst = burst :=
    (Limiter.start rate burst origin).fixed_run actions
  have hnonneg : 0 ≤ l.tokens now := by
    apply Limiter.tokens_run_nonneg _ fits order
    exact le_trans zero_le_one ((Pace.proper_ofRate rate burst).one_le_tokens_tolerance _)
  use hnonneg
  intro next hnext p kept l'
  have hp : p.Proper := Pace.proper_ofRate next burst
  have htokens : l'.tokens now =
      p.tokens (l.elapsed now) (l.pace.rebase p (l.elapsed now) l.arrival) := by
    rw [l.tokens_setRate hnext, hburst]
  have hkept : l.pace.banked p.capacity (l.elapsed now) l.arrival = kept := by
    rw [Pace.banked_eq, min_comm, max_eq_left]
    · rfl
    · apply hnonneg
  have helapsed : (l.elapsed now).toNat = now - origin := by
    rw [l.toNat_elapsed (by rw [horigin]; exact fits), horigin]
  refine ⟨?_, ?_, ?_⟩
  · rw [htokens, ← hkept]
    apply hp.banked_le_tokens_rebase
  · intro hfits
    rw [htokens, ← hkept]
    apply hp.tokens_rebase_lt
    rw [Pace.missing, helapsed, hkept]
    apply hfits
  · intro hfits n
    apply l'.acquireAll_replicate
    have hpace : l'.pace = p := by rw [l.pace_setRate hnext, hburst]
    have horigin' : l'.origin = origin :=
      (l.fixed_perform (.setRate next now)).1.trans horigin
    rw [l'.toNat_elapsed (by rw [horigin']; exact fits), horigin', hpace]
    apply hfits

/-- A limiter of three requests per second, after requests and a change to seven per second, has 1.9
tokens and some.  It keeps them at two and a half requests per second, where less than 2.5 billionths
come to them, and admits one of three requests. -/
theorem tokens_conserved_of_fraction :
  let actions : List (Limiter.Action Rat) :=
    [.acquire 7, .acquire 400000007, .setRate 7 600000007, .acquire 600000007, .acquire 700000007]
  let l := (Limiter.start 3 1 7).run actions
  let p := Pace.ofRate (5 / 2 : Rat) 1
  let kept := min (l.tokens 900000007) p.capacity
  let l' := l.setRate (5 / 2) 900000007
  (∀ action ∈ actions, action.instant ≤ 900000007) ∧ 900000007 - 7 < 18446744073709551616 ∧
    0 ≤ l.tokens 900000007 ∧ (0 : Rat) < 5 / 2 ∧
    ((900000007 - 7 : Nat) + (p.capacity - kept) * p.interval.toNat < 18446744073709551616) ∧
    ((900000007 - 7 : Nat) + (p.capacity - 1) * p.interval.toNat + 1 < 18446744073709551616) ∧
    kept = 271428572 / 142857143 ∧ l'.tokens 900000007 = 760000001 / 400000000 ∧
    kept ≤ l'.tokens 900000007 ∧ l'.tokens 900000007 < kept + 1 / p.interval.toNat ∧
    (l'.acquireAll (List.replicate 3 900000007)).1 = [true, false, false]
  := by
  intro actions l p kept l'
  have order : ∀ action ∈ actions, action.instant ≤ 900000007 := by
    simp only [actions, List.forall_mem_cons, List.not_mem_nil, false_imp_iff, implies_true]
    decide
  have hmissing : (900000007 - 7 : Nat) + (p.capacity - kept) * p.interval.toNat <
      18446744073709551616 := by
    decide +kernel
  have hothers : (900000007 - 7 : Nat) + (p.capacity - 1) * p.interval.toNat + 1 <
      18446744073709551616 := by
    decide +kernel
  have hkept : kept = 271428572 / 142857143 := by decide +kernel
  have htokens : l'.tokens 900000007 = 760000001 / 400000000 := by decide +kernel
  have hfloor : ⌊l'.tokens 900000007⌋₊ = 1 := by decide +kernel
  obtain ⟨hnonneg, hchange⟩ := tokens_conserved 3 1 7 order (by decide)
  obtain ⟨hle, hlt, hrow⟩ := hchange (5 / 2) (by decide +kernel)
  have hrow := hrow hothers 3
  use order, by decide, hnonneg, by decide +kernel, hmissing, hothers, hkept, htokens, hle,
    hlt hmissing
  rw [hrow, hfloor]
  rfl

end QuotaShare
