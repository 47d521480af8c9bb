import QuotaShare.Document.Settings
import QuotaShare.Json.Value

/-!
# Settings in JSON

JSON values as documents.  Texts, numbers and truth values are never taken for each other, and a
record may also be written as the list of its fields in their order.
-/

namespace QuotaShare.Json

/-- The word that a value stands for. -/
def word? : Json → Option UInt64
  | whole n => if 0 ≤ n ∧ n < 18446744073709551616 then some n.toNat.toUInt64 else none
  | _ => none

/-- The floating-point number nearest to a whole number. -/
def ofWhole (n : Int) : Float :=
  let magnitude : Float := Float.ofScientific n.natAbs false 0
  if n < 0 then -magnitude else magnitude

/-- The floating-point number that a value stands for. -/
def real? : Json → Option Float
  | whole n => some (ofWhole n)
  | real x => some x
  | _ => none

/-- The members of an object that have one of the given names, or the items of a list under the
names in their order. -/
def record? (names : List String) : Json → Option (ByName Json)
  | object members => some (ByName.ofPairs (members.filter fun m => names.contains m.1))
  | list items =>
    if items.length ≤ names.length then some (ByName.ofPairs (names.zip items)) else none
  | _ => none

/-- JSON values as documents. -/
def format : Format Json where
  text?
    | text s => some s
    | _ => none
  word? := word?
  real? := real?
  optional?
    | null => some none
    | v => some (some v)
  items?
    | list items => some items
    | _ => none
  record? := record?

/-- The variant of a table that a value stands for: its name, or an object that holds nothing under
the name alone. -/
def variant? : Json → Option Variant
  | text label => Variant.ofLabel? label
  | object [(label, null)] => Variant.ofLabel? label
  | _ => none

end QuotaShare.Json
