import QuotaShare.Document.Settings
import QuotaShare.Document.Json
import QuotaShare.Decimal.Layout
import QuotaShare.Scalar

/-!
# Layered settings

Settings that are put together from layers, each of which overrides those before it.  A layer sets
values at paths of names and places; the names do not depend on the case of their letters, and
values are taken for each other wherever that makes sense.
-/

namespace QuotaShare.Layered

/-! ### Paths -/

/-- A step from a value to a part of it. -/
inductive Step where
  | member (name : String)
  /-- A place in a list; negative ones count from its end. -/
  | item (place : Int)
  deriving DecidableEq, Repr

/-- A letter in lower case; the sign of the unit kelvin is a letter k. -/
def lowerChar (c : Char) : Char :=
  if c == '\u212A' then 'k' else c.toLower

/-- A name in lower case. -/
def lower (s : String) : String := s.map lowerChar

/-- The characters of the names in paths. -/
def isPathChar (c : Char) : Bool :=
  c.isAlphanum || c == '_' || c == '-' || c == ' '

/-- The place that is written between brackets, with or without blanks around it. -/
def place? (cs : List Char) : Option Int :=
  let digits := Text.trimEnds (fun c => c == ' ' || c == '\t') cs
  if digits.head? == some '+' then none else Decimal.signedWord? 10 digits

/-- The steps after the first name. -/
def steps? : Nat → List Char → Option (List Step)
  | 0, _ => none
  | _ + 1, [] => some []
  | fuel + 1, '.' :: rest =>
    let name := rest.takeWhile isPathChar
    if name.isEmpty then none
    else (steps? fuel (rest.drop name.length)).map (.member (String.ofList name) :: ·)
  | fuel + 1, '[' :: rest => do
    let inner := rest.takeWhile (· != ']')
    if rest.length ≤ inner.length then none
    else
      let place ← place? inner
      (steps? fuel (rest.drop (inner.length + 1))).map (.item place :: ·)
  | _ + 1, _ => none

/-- The steps that a text describes; a text that describes none is a name as a whole. -/
def steps (s : String) : List Step :=
  let name := s.toList.takeWhile isPathChar
  let found := if name.isEmpty then none
    else (steps? (s.length + 1) (s.toList.drop name.length)).map
      (.member (String.ofList name) :: ·)
  found.getD [.member s]

/-! ### Values at paths -/

/-- The members of an object; any other value has none. -/
def members : Json → List (String × Json)
  | .object members => members
  | _ => []

/-- The items of a list; any other value has none. -/
def items : Json → List Json
  | .list items => items
  | _ => []

/-- The object in which a member has a given value. -/
def put (root : Json) (name : String) (value : Json) : Json :=
  let ms := members root
  if ms.any fun m => m.1 == name then
    .object (ms.map fun m => if m.1 == name then (name, value) else m)
  else .object (ms ++ [(name, value)])

mutual

/-- Sets a member of an object; the members of an object are set one by one. -/
def merge : Json → Json → String → Json
  | .object incoming, root, name =>
    let name := lower name
    put root name (mergeAll incoming ((Json.member? name root).getD (.object [])))
  | value, root, name => put root (lower name) value

/-- Sets members of an object. -/
def mergeAll : List (String × Json) → Json → Json
  | [], root => root
  | (name, value) :: incoming, root => mergeAll incoming (merge value root name)

end

/-- The index of a place in a list of a given length. -/
def index (place : Int) (length : Nat) : Nat :=
  if 0 ≤ place then place.toNat else (length + place).toNat

/-- The list in which an item is changed; it is filled up if it is too short. -/
def changeItem (root : Json) (place : Int) (change : Json → Json) : Json :=
  let found := items root
  let i := index place found.length
  let filled := found ++ List.replicate (i + 1 - found.length) .null
  .list (filled.modify i change)

/-- The value in which the part at the end of a path is set. -/
def set : List Step → Json → Json → Json
  | [], value, _ => value
  | [.member name], value, root => merge value root name
  | .member name :: path, value, root =>
    let name := lower name
    put root name (set path value ((Json.member? name root).getD .null))
  | .item place :: path, value, root => changeItem root place (set path value)

/-- A layer of values on top of a value. -/
def overlay (root : Json) (layer : List (String × Json)) : Json :=
  layer.foldl (fun root (path, value) => set (steps path) value root) root

/-! ### Values for each other -/

/-- The truth value that a text stands for. -/
def truth? (s : String) : Option Bool :=
  let s := lower s
  if ["true", "on", "yes"].contains s then some true
  else if ["false", "off", "no"].contains s then some false
  else none

/-- The text that a value stands for. -/
def text? : Json → Option String
  | .text s => some s
  | .bool b => some (if b then "true" else "false")
  | .whole n => some (toString n)
  | .real x => some (Decimal.Layout.plain.float x)
  | _ => none

/-- The word that a value stands for; a number with a fraction is rounded. -/
def word? : Json → Option UInt64
  | .text s =>
    match truth? s with
    | some b => some (if b then 1 else 0)
    | none => Decimal.word? s
  | .bool b => some (if b then 1 else 0)
  | .real x => some (nearestWord x)
  | v => v.word?

/-- The floating-point number that a value stands for. -/
def real? : Json → Option Float
  | .text s =>
    match truth? s with
    | some b => some (if b then 1.0 else 0.0)
    | none => Decimal.float? s
  | .bool b => some (if b then 1.0 else 0.0)
  | v => v.real?

/-- The members of an object with known names, or the first items of a list under the names. -/
def record? (known : List String) : Json → Option (ByName Json)
  | .object ms => some (ByName.ofPairs (ms.filter fun m => known.contains m.1))
  | .list items => some (ByName.ofPairs (known.zip items))
  | _ => none

/-- The values of layers as documents. -/
def format : Format Json where
  text? := text?
  word? := word?
  real? := real?
  optional?
    | .null => some none
    | v => some (some v)
  items?
    | .list items => some items
    | _ => none
  record? := record?

end QuotaShare.Layered
