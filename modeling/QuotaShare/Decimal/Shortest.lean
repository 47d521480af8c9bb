import QuotaShare.Decimal.Numeral

/-!
# Shortest decimals

The decimal with the fewest digits that reads back as a given floating-point number, and among
those the nearest to it; of two that are equally near, the larger.
-/

namespace QuotaShare.Decimal

/-- A positive floating-point number as `mantissa · 2 ^ exponent`. -/
structure Binary where
  mantissa : Nat
  exponent : Int
  /-- The number is a power of two whose lower neighbour is half as far away as the upper one. -/
  closeBelow : Bool

/-- The number whose bits, the sign apart, are given; they are those of a finite number. -/
def Binary.ofBits (bits : UInt64) : Binary :=
  let scale : Nat := bits.toNat / Nat.pow 2 52 % Nat.pow 2 11
  let fraction : Nat := bits.toNat % Nat.pow 2 52
  if scale = 0 then ⟨fraction, -1074, false⟩
  else ⟨Nat.pow 2 52 + fraction, (scale : Int) - 1075, fraction = 0 && 1 < scale⟩

/-- The comparison of `a · 10 ^ i` with `n · 2 ^ j`. -/
def compareScaled (a : Nat) (i : Int) (n : Nat) (j : Int) : Ordering :=
  compare (a * Nat.pow 10 i.toNat * Nat.pow 2 (-j).toNat)
    (n * Nat.pow 2 j.toNat * Nat.pow 10 (-i).toNat)

/-- Whether the nearest floating-point number to `digits · 10 ^ exponent` is `x`.

The numbers nearest to `x` form an interval, whose ends belong to it when the mantissa is even. -/
def Binary.readsBack (x : Binary) (n : Numeral) : Bool :=
  let low := if x.closeBelow then 4 * x.mantissa - 1 else 4 * x.mantissa - 2
  let above := compareScaled n.digits n.exponent low (x.exponent - 2)
  let below := compareScaled n.digits n.exponent (4 * x.mantissa + 2) (x.exponent - 2)
  let closed := x.mantissa % 2 == 0
  (above == .gt || (closed && above == .eq)) && (below == .lt || (closed && below == .eq))

/-- The number of decimal digits of a count. -/
def width (n : Nat) : Nat :=
  (Nat.toDigits 10 n).length

/-- The exponent of the leading decimal digit of a positive number. -/
def Binary.leading (x : Binary) : Int :=
  let num := x.mantissa * Nat.pow 2 x.exponent.toNat
  let den := Nat.pow 2 (-x.exponent).toNat
  if den ≤ num then (width (num / den) : Int) - 1
  else
    let j := width (den / num) - 1
    if den ≤ num * Nat.pow 10 j then -(j : Int) else -(j : Int) - 1

/-- The nearer of the neighbours of `x` among the multiples of `10 ^ k` that read back as it. -/
def Binary.onGrid? (x : Binary) (k : Int) : Option Numeral :=
  let num := x.mantissa * Nat.pow 2 x.exponent.toNat * Nat.pow 10 (-k).toNat
  let den := Nat.pow 2 (-x.exponent).toNat * Nat.pow 10 k.toNat
  let low : Numeral := ⟨num / den, k⟩
  let high : Numeral := ⟨num / den + 1, k⟩
  match x.readsBack low, x.readsBack high with
  | true, true => if 2 * (num % den) < den then some low else some high
  | true, false => some low
  | false, true => some high
  | false, false => none

/-- The shortest decimal of a positive finite number, searched on ever finer grids.

Seventeen digits are enough for every number. -/
def Binary.shortest (x : Binary) : Numeral :=
  let grids := (List.range 17).map fun i => x.leading - Int.ofNat i
  (grids.findSome? x.onGrid?).getD ⟨0, 0⟩

end QuotaShare.Decimal
