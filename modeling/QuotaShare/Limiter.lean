import QuotaShare.Scalar

/-!
# Rate limiter

A token bucket kept as a single number: the instant at which it would be drained if all its banked
tokens were spent at once.  Tokens accrue by time passing, and a request moves the instant one
interval ahead; it is refused when the instant already lies too far in the future.
-/

namespace QuotaShare

/-- The whole-number parameters of a limiter, in nanoseconds. -/
structure Cadence where
  /-- The time in which one token accrues. -/
  interval : UInt64
  /-- How far ahead of the present the arrival time may lie when a request is admitted. -/
  tolerance : UInt64
  deriving DecidableEq, Repr

namespace Cadence

/-- Whether a request at `now` is admitted. -/
def admits (c : Cadence) (now arrival : UInt64) : Bool :=
  max arrival now - now ≤ c.tolerance

/-- The arrival time after a request was admitted at `now`. -/
def charge (c : Cadence) (now arrival : UInt64) : UInt64 :=
  Word.addSat (max arrival now) c.interval

/-- One request at `now`: the decision, and the arrival time after it. -/
def offer (c : Cadence) (now arrival : UInt64) : Bool × UInt64 :=
  if c.admits now arrival then (true, c.charge now arrival) else (false, arrival)

/-- Requests at the given times, one after the other: the decisions and the last arrival time. -/
def offerAll (c : Cadence) (arrival : UInt64) : List UInt64 → List Bool × UInt64
  | [] => ([], arrival)
  | now :: later =>
    let (admitted, arrival) := c.offer now arrival
    let (decisions, arrival) := c.offerAll arrival later
    (admitted :: decisions, arrival)

end Cadence

/-- A cadence with the number of tokens that can be banked. -/
structure Pace (α : Type) extends Cadence where
  /-- The largest number of banked tokens. -/
  capacity : α

namespace Pace

variable {α : Type} [Scalar α]

/-- The pace of a rate per second that banks at most `burst` seconds' worth of tokens.

At least one token fits, and the tolerance is the time in which all the others accrue. -/
def ofRate (rate burst : α) : Pace α :=
  let rate := Scalar.atLeast Scalar.tiny rate
  let interval := max (Scalar.round (Scalar.ofNat 1000000000 / rate)) 1
  let capacity := Scalar.atLeast (Scalar.ofNat 1) (rate * burst)
  { interval
    tolerance := Scalar.floor ((capacity - Scalar.ofNat 1) * Scalar.ofNat interval.toNat)
    capacity }

/-- The tokens banked at `now`, as far as they fit a given capacity. -/
def banked (p : Pace α) (capacity : α) (now arrival : UInt64) : α :=
  let debt := max arrival now - now
  Scalar.clamp (Scalar.ofNat 0) capacity
    (p.capacity - Scalar.ofNat debt.toNat / Scalar.ofNat p.interval.toNat)

/-- The arrival time at which the pace `new` has banked at `now` what `old` had banked. -/
def rebase (old new : Pace α) (now arrival : UInt64) : UInt64 :=
  let missing := new.capacity - old.banked new.capacity now arrival
  Word.addSat now (Scalar.floor (missing * Scalar.ofNat new.interval.toNat))

end Pace

/-- A limiter of requests whose rate can be changed while it is in use. -/
structure Limiter (α : Type) where
  /-- The instant at which the limiter was made. -/
  origin : Nat
  /-- How many seconds' worth of tokens can be banked. -/
  burst : α
  /-- The rate in requests per second. -/
  rate : α
  /-- The instant at which the bucket would be drained, in nanoseconds after the origin. -/
  arrival : UInt64
  deriving DecidableEq

namespace Limiter

variable {α : Type} [Scalar α]

/-- A limiter made at `origin`, with a single token at hand.

The rate should be finite and positive.  This is asserted for debugging only, so here, as in use, a
limiter is made with any rate. -/
def start (rate burst : α) (origin : Nat) : Limiter α where
  origin
  burst
  rate
  arrival := (Pace.ofRate rate burst).tolerance

/-- The pace at which the limiter runs. -/
def pace (l : Limiter α) : Pace α :=
  Pace.ofRate l.rate l.burst

/-- The nanoseconds from the origin to `now`, as a word; an earlier instant counts as the origin. -/
def elapsed (l : Limiter α) (now : Nat) : UInt64 :=
  (now - l.origin).toUInt64

/-- One request at `now`: whether it is admitted, and the limiter after it. -/
def acquire (l : Limiter α) (now : Nat) : Bool × Limiter α :=
  let (admitted, arrival) := l.pace.offer (l.elapsed now) l.arrival
  (admitted, { l with arrival })

/-- The limiter at a new rate, with the tokens banked so far.

A rate that is not finite and positive is ignored. -/
def setRate (l : Limiter α) (rate : α) (now : Nat) : Limiter α :=
  if Scalar.usable rate then
    { l with rate, arrival := l.pace.rebase (Pace.ofRate rate l.burst) (l.elapsed now) l.arrival }
  else l

end Limiter

end QuotaShare
