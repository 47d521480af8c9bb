/-!
# Identifiers

Identifiers of nodes that were given none.  They are made from 128 random bits, of which a few are
fixed to say so, and are written in groups of digits.
-/

namespace QuotaShare.Identifier

/-- A number in base sixteen with a given number of digits, of which the last ones are kept. -/
def digits : Nat → Nat → List Char
  | 0, _ => []
  | count + 1, n => digits count (n / 16) ++ [Nat.digitChar (n % 16)]

/-- Groups of characters with hyphens between them. -/
def hyphenated : List (List Char) → List Char
  | [] => []
  | [group] => group
  | group :: groups => group ++ '-' :: hyphenated groups

/-- Groups of digits that are cut off a number from its end, with the digits that are fixed. -/
def groups (n : Nat) : List (List Char) :=
  [digits 8 (n >>> 96), digits 4 (n >>> 80), '4' :: digits 3 (n >>> 64),
    Nat.digitChar (8 + (n >>> 60) % 4) :: digits 3 (n >>> 48), digits 12 n]

/-- The identifier that is made from random bits. -/
def ofBits (n : Nat) : String :=
  String.ofList (hyphenated (groups n))

end QuotaShare.Identifier
