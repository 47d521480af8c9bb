import QuotaShare.Decimal.Shortest

/-!
# Layout of numbers

The text of a floating-point number: the digits of its shortest decimal, written positionally or
with an exponent.
-/

namespace QuotaShare.Decimal

/-- The decisions of a number format. -/
structure Layout where
  /-- Whether a number is written positionally, given the exponent of its leading digit. -/
  positional : Int → Bool
  /-- Whether a whole number keeps a point and a zero. -/
  pointZero : Bool

/-- Numbers from `10 ^ -4` to below `10 ^ 16` are positional, and whole ones keep a fraction. -/
def Layout.detailed : Layout := ⟨fun e => -4 ≤ e && e < 16, true⟩

/-- All numbers are positional, and whole ones have no fraction. -/
def Layout.plain : Layout := ⟨fun _ => true, false⟩

/-- The digits of a count without its trailing zeros, and how many zeros were dropped. -/
def trimZeros (n : Nat) : List Char × Nat :=
  let reversed := (Nat.toDigits 10 n).reverse
  let kept := reversed.dropWhile (· == '0')
  (kept.reverse, reversed.length - kept.length)

/-- Digits with the point after the one whose exponent is zero; `leading` is that of the first. -/
def writePositional (digits : List Char) (leading : Int) (pointZero : Bool) : List Char :=
  match leading with
  | .negSucc n => '0' :: '.' :: (List.replicate n '0' ++ digits)
  | .ofNat n =>
    let whole := digits.take (n + 1)
    let zeros := List.replicate (n + 1 - whole.length) '0'
    let fraction := digits.drop (n + 1)
    if fraction.isEmpty then whole ++ zeros ++ (if pointZero then ['.', '0'] else [])
    else whole ++ '.' :: fraction

/-- Digits with the point after the first one, and the exponent of that one. -/
def writeScientific (digits : List Char) (leading : Int) : List Char :=
  let fraction := digits.drop 1
  digits.take 1 ++ (if fraction.isEmpty then [] else '.' :: fraction) ++
    'e' :: (toString leading).toList

/-- The text of a numeral with at least one digit other than zero. -/
def Layout.numeral (l : Layout) (n : Numeral) : List Char :=
  let (digits, zeros) := trimZeros n.digits
  let leading : Int := n.exponent + zeros + digits.length - 1
  if l.positional leading then writePositional digits leading l.pointZero
  else writeScientific digits leading

/-- The text of a floating-point number. -/
def Layout.float (l : Layout) (x : Float) : String :=
  if x.isNaN then "NaN"
  else
    let bits := x.toBits.toNat
    let sign := if Nat.pow 2 63 ≤ bits then ['-'] else []
    let magnitude := bits % Nat.pow 2 63
    let body :=
      if x.isInf then ['i', 'n', 'f']
      else if magnitude = 0 then '0' :: (if l.pointZero then ['.', '0'] else [])
      else l.numeral (Binary.ofBits magnitude.toUInt64).shortest
    String.ofList (sign ++ body)

end QuotaShare.Decimal
