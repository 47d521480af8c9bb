import QuotaShare.Decimal.Numeral

/-!
# Spans of time

Spans of time as nanoseconds, made from whole milliseconds or seconds, and their text in the
largest unit of which they hold at least one.
-/

namespace QuotaShare.Time

/-- The nanoseconds of a number of milliseconds. -/
def ofMillis (ms : Nat) : Nat := ms * 1000000

/-- The nanoseconds of a number of seconds. -/
def ofSecs (secs : Nat) : Nat := secs * 1000000000

/-- The nanoseconds of a number of milliseconds that is raised to at least one. -/
def ofMillisAtLeastOne (ms : Nat) : Nat := ofMillis (max ms 1)

/-- The number `n / 10 ^ places` without zeros at the end of its fraction. -/
def fixed (n places : Nat) : String :=
  let digits := Nat.toDigits 10 (n % Nat.pow 10 places)
  let padded := List.replicate (places - digits.length) '0' ++ digits
  let fraction := (padded.reverse.dropWhile (· == '0')).reverse
  let whole := toString (n / Nat.pow 10 places)
  if fraction.isEmpty then whole else whole ++ "." ++ String.ofList fraction

/-- The text of a span of time. -/
def describe (nanos : Nat) : String :=
  if 1000000000 ≤ nanos then fixed nanos 9 ++ "s"
  else if 1000000 ≤ nanos then fixed nanos 6 ++ "ms"
  else if 1000 ≤ nanos then fixed nanos 3 ++ "µs"
  else toString nanos ++ "ns"

end QuotaShare.Time
