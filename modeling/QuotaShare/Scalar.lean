import QuotaShare.Word

/-!
# Scalars

The numbers in which a rate is measured.  A limiter and a share of a rate are defined over any
scalar, so that the same definition runs on floating-point numbers and can be read over exact ones.
-/

namespace QuotaShare

/-- Numbers with the four operations, a strict order, and conversions from counts and to words. -/
class Scalar (α : Type) extends Add α, Sub α, Mul α, Div α where
  /-- The number nearest to a count. -/
  ofNat : Nat → α
  /-- The strict order; it holds of no pair with an incomparable member. -/
  less : α → α → Bool
  /-- The number without its fraction, kept within the words. -/
  floor : α → UInt64
  /-- The nearest whole number, a half going up, kept within the words. -/
  round : α → UInt64
  /-- The least rate that is still told apart from none at all. -/
  tiny : α
  /-- The numbers that can be a rate: those that are finite and positive. -/
  usable : α → Bool

namespace Scalar

variable {α : Type} [Scalar α]

/-- The number `x`, raised to `lo` unless it is known to be above it. -/
def atLeast (lo x : α) : α :=
  if less lo x then x else lo

/-- The number `x` moved into the range from `lo` to `hi`; an incomparable number stays as it is. -/
def clamp (lo hi x : α) : α :=
  let raised := if less x lo then lo else x
  if less hi raised then hi else raised

end Scalar

/-- The whole number nearest to a floating-point number, kept within the words.

Cutting off the fraction is exact, so the part that is left over decides the direction. -/
def nearestWord (x : Float) : UInt64 :=
  let whole := x.toUInt64
  if 0.5 ≤ x - whole.toFloat then Word.addSat whole 1 else whole

instance : Scalar Float where
  ofNat n := if n < 18446744073709551616 then n.toUInt64.toFloat else Float.ofScientific n false 0
  less x y := decide (x < y)
  floor := Float.toUInt64
  round := nearestWord
  tiny := Float.ofBits 0x0010000000000000
  usable x := x.isFinite && decide (0.0 < x)

/-- The whole part of a rational number, kept within the words. -/
def wordOfRat (x : Rat) : UInt64 :=
  (min x.floor.toNat Word.last.toNat).toUInt64

/-- The rational numbers, in which nothing is rounded. -/
instance : Scalar Rat where
  ofNat n := n
  less x y := decide (x < y)
  floor := wordOfRat
  round x := wordOfRat (x + 1 / 2)
  tiny := mkRat 1 (1 <<< 1022)
  usable x := decide (0 < x)

/-- The part of an overall rate that falls to each of a number of nodes. -/
def share {α : Type} [Scalar α] (overall : α) (nodes : Nat) : α :=
  overall / Scalar.ofNat nodes

end QuotaShare
