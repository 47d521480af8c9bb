/-!
# Decimal numerals

The reading of decimal numerals: whole numbers in a given base, and numbers with an optional sign,
an optional fraction and an optional exponent.
-/

namespace QuotaShare.Decimal

/-- The value of a digit in bases up to sixteen. -/
def digit? (c : Char) : Option Nat :=
  if '0' ≤ c ∧ c ≤ '9' then some (c.toNat - '0'.toNat)
  else if 'a' ≤ c ∧ c ≤ 'f' then some (c.toNat - 'a'.toNat + 10)
  else if 'A' ≤ c ∧ c ≤ 'F' then some (c.toNat - 'A'.toNat + 10)
  else none

/-- The value of a nonempty text of digits of a base. -/
def natural? (base : Nat) : List Char → Option Nat
  | [] => none
  | cs => cs.foldlM (fun n c => do
      let d ← digit? c
      if d < base then some (n * base + d) else none) 0

/-- The value of a text of digits of a base, after an optional sign. -/
def integer? (base : Nat) : List Char → Option Int
  | '+' :: cs => (natural? base cs).map Int.ofNat
  | '-' :: cs => (natural? base cs).map fun n => -Int.ofNat n
  | cs => (natural? base cs).map Int.ofNat

/-- The value of a text of digits after an optional sign, if it fits a word with a sign. -/
def signedWord? (base : Nat) (cs : List Char) : Option Int :=
  (integer? base cs).filter fun n =>
    decide (-9223372036854775808 ≤ n ∧ n < 9223372036854775808)

/-- The word that a text of digits stands for, after an optional plus sign. -/
def word? (s : String) : Option UInt64 := do
  let n ← natural? 10 (match s.toList with
    | '+' :: cs => cs
    | cs => cs)
  if n < 18446744073709551616 then some n.toUInt64 else none

/-- The number `digits · 10 ^ exponent`. -/
structure Numeral where
  digits : Nat
  exponent : Int
  deriving DecidableEq, Repr

/-- The floating-point number nearest to a numeral. -/
def Numeral.toFloat (n : Numeral) : Float :=
  Float.ofScientific n.digits (n.exponent < 0) n.exponent.natAbs

/-- The digits that are left when the exponent part, if there is one, is cut off, with its value. -/
def exponent? (cs : List Char) : Option (List Char × Int) :=
  let (mantissa, rest) := cs.span fun c => c != 'e' && c != 'E'
  match rest with
  | [] => some (mantissa, 0)
  | _ :: part => (integer? 10 part).map fun e => (mantissa, e)

/-- Digits with at most one point among them and an optional exponent. -/
def numeral? (cs : List Char) : Option Numeral := do
  let (mantissa, e) ← exponent? cs
  let (whole, rest) := mantissa.span (· != '.')
  let fraction := rest.drop 1
  let digits ← natural? 10 (whole ++ fraction)
  some ⟨digits, e - fraction.length⟩

/-- The names of numbers that have no digits. -/
def named? (cs : List Char) : Option Float :=
  match String.ofList (cs.map Char.toLower) with
  | "inf" | "infinity" => some (1.0 / 0.0)
  | "nan" => some (0.0 / 0.0)
  | _ => none

/-- A number without a sign. -/
def unsigned? (cs : List Char) : Option Float :=
  named? cs <|> (numeral? cs).map Numeral.toFloat

/-- The floating-point number nearest to the one that a text stands for.

A text is an optional sign followed by a name or by a numeral, and nothing else. -/
def float? (s : String) : Option Float :=
  match s.toList with
  | '+' :: cs => unsigned? cs
  | '-' :: cs => (unsigned? cs).map fun x => -x
  | cs => unsigned? cs

end QuotaShare.Decimal
