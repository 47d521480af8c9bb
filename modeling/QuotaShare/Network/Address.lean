import QuotaShare.Decimal.Numeral

/-!
# Socket addresses

Internet addresses with the number of a service, their numeric text, and the reading of it.  In the
text of an address of the sixth version the longest run of zeros is left out.
-/

namespace QuotaShare

/-- An address of the fourth version. -/
structure Ipv4 where
  a : Nat
  b : Nat
  c : Nat
  d : Nat
  deriving DecidableEq, Repr

/-- An internet address with the number of the service behind it. -/
inductive SocketAddress where
  | v4 (ip : Ipv4) (service : Nat)
  /-- An address of eight groups, with the number of the zone in which it is valid. -/
  | v6 (groups : List Nat) (zone service : Nat)
  deriving DecidableEq, Repr

namespace SocketAddress

/-! ### Writing -/

/-- The text of an address of the fourth version. -/
def writeV4 (ip : Ipv4) : String :=
  ".".intercalate [toString ip.a, toString ip.b, toString ip.c, toString ip.d]

/-- The text of a list of groups. -/
def writeGroups (groups : List Nat) : String :=
  ":".intercalate (groups.map fun g => String.ofList (Nat.toDigits 16 g))

/-- The number of zeros at the front of a list. -/
def zerosAt (groups : List Nat) : Nat :=
  (groups.takeWhile (· == 0)).length

/-- The place and the length of the first longest run of zeros. -/
def longestZeros (groups : List Nat) : Nat × Nat :=
  (List.range groups.length).foldl (fun (best : Nat × Nat) i =>
    let n := zerosAt (groups.drop i)
    if best.2 < n then (i, n) else best) (0, 0)

/-- The text of an address of the sixth version. -/
def writeV6 (groups : List Nat) : String :=
  match groups with
  | [0, 0, 0, 0, 0, 65535, high, low] =>
    "::ffff:" ++ writeV4 ⟨high / 256, high % 256, low / 256, low % 256⟩
  | _ =>
    let (start, length) := longestZeros groups
    if 1 < length then
      writeGroups (groups.take start) ++ "::" ++ writeGroups (groups.drop (start + length))
    else writeGroups groups

/-- The text of an address with the number of its service. -/
def write : SocketAddress → String
  | v4 ip service => writeV4 ip ++ ":" ++ toString service
  | v6 groups zone service =>
    let zoneText := if zone = 0 then "" else "%" ++ toString zone
    "[" ++ writeV6 groups ++ zoneText ++ "]:" ++ toString service

/-! ### Reading

Each reader takes what it reads off the front of the characters. -/

/-- A given character. -/
def char? (c : Char) : List Char → Option (List Char)
  | d :: rest => if c = d then some rest else none
  | [] => none

/-- The digits of a base at the front of the characters. -/
def digits (base : Nat) (cs : List Char) : List Char :=
  cs.takeWhile fun c => match Decimal.digit? c with
    | some d => d < base
    | none => false

/-- A number below `bound`. -/
def number? (base bound : Nat) (cs : List Char) : Option (Nat × List Char) := do
  let text := digits base cs
  let n ← Decimal.natural? base text
  if n < bound then some (n, cs.drop text.length) else none

/-- A number of at most `most` digits. -/
def shortNumber? (base most bound : Nat) (cs : List Char) : Option (Nat × List Char) :=
  if (digits base cs).length ≤ most then number? base bound cs else none

/-- One of the four numbers of an address; only zero itself starts with a zero. -/
def octet? (cs : List Char) : Option (Nat × List Char) :=
  match digits 10 cs with
  | '0' :: _ :: _ => none
  | _ => shortNumber? 10 3 256 cs

/-- An address of the fourth version. -/
def ipv4? (cs : List Char) : Option (Ipv4 × List Char) := do
  let (a, cs) ← octet? cs
  let (b, cs) ← octet? (← char? '.' cs)
  let (c, cs) ← octet? (← char? '.' cs)
  let (d, cs) ← octet? (← char? '.' cs)
  some (⟨a, b, c, d⟩, cs)

/-- The characters after the colon that separates groups; none stands before the first group. -/
def separator? (first : Bool) (cs : List Char) : Option (List Char) :=
  if first then some cs else char? ':' cs

/-- At most `room` groups, the last two of which may be written as an address of the fourth
version.

The answer tells whether they were. -/
def groups? (first : Bool) : Nat → List Char → List Nat × Bool × List Char
  | 0, cs => ([], false, cs)
  | room + 1, cs =>
    let embedded := if room = 0 then none else (separator? first cs).bind ipv4?
    match embedded with
    | some (ip, rest) => ([ip.a * 256 + ip.b, ip.c * 256 + ip.d], true, rest)
    | none =>
      match (separator? first cs).bind (shortNumber? 16 4 65536) with
      | some (g, rest) =>
        let (more, mapped, rest) := groups? false room rest
        (g :: more, mapped, rest)
      | none => ([], false, cs)

/-- An address of the sixth version; a double colon stands for at least one zero. -/
def ipv6? (cs : List Char) : Option (List Nat × List Char) :=
  match groups? true 8 cs with
  | (head, mapped, rest) =>
    if head.length = 8 then some (head, rest)
    else if mapped then none
    else do
      let rest ← char? ':' (← char? ':' rest)
      let (tail, _, rest) := groups? true (7 - head.length) rest
      some (head ++ List.replicate (8 - head.length - tail.length) 0 ++ tail, rest)

/-- A colon and the number of a service. -/
def service? (cs : List Char) : Option (Nat × List Char) := do
  number? 10 65536 (← char? ':' cs)

/-- An address of the fourth version with the number of a service. -/
def socketV4? (cs : List Char) : Option (SocketAddress × List Char) := do
  let (ip, rest) ← ipv4? cs
  let (service, rest) ← service? rest
  some (v4 ip service, rest)

/-- A bracketed address of the sixth version with the number of a service. -/
def socketV6? (cs : List Char) : Option (SocketAddress × List Char) := do
  let (groups, rest) ← ipv6? (← char? '[' cs)
  let (zone, rest) := (((char? '%' rest).bind (number? 10 4294967296))).getD (0, rest)
  let (service, rest) ← service? (← char? ']' rest)
  some (v6 groups zone service, rest)

/-- The address that a text stands for. -/
def ofText? (s : String) : Option SocketAddress :=
  match socketV4? s.toList <|> socketV6? s.toList with
  | some (address, []) => some address
  | _ => none

end SocketAddress

end QuotaShare
