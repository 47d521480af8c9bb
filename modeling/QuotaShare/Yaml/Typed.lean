import QuotaShare.Decimal.Numeral
import QuotaShare.Yaml.Fault
import QuotaShare.Yaml.Node

/-!
# Typed values of YAML

The values that nodes stand for when texts without quotes are typed by how they look: as nothing, as
truth values or as numbers.  The tag of a common type asks for one of these types, and a text that
does not look like it is unfit.
-/

namespace QuotaShare.Yaml

/-- A value whose texts are typed by how they look; keys may be any values. -/
inductive Typed where
  | null
  | bool (b : Bool)
  | whole (n : Int)
  /-- A number with a fraction, by its text. -/
  | real (s : String)
  | text (s : String)
  /-- A text that does not look like its tag, or a reference to a node from within. -/
  | unfit
  | list (items : List Typed)
  | map (entries : List (Typed × Typed))

namespace Typed

mutual

/-- Whether two values are the same. -/
def same : Typed → Typed → Bool
  | .null, .null => true
  | .bool a, .bool b => a == b
  | .whole a, .whole b => a == b
  | .real a, .real b => a == b
  | .text a, .text b => a == b
  | .unfit, .unfit => true
  | .list as, .list bs => sameItems as bs
  | .map as, .map bs => sameEntries as bs
  | _, _ => false

/-- Whether two lists have the same items. -/
def sameItems : List Typed → List Typed → Bool
  | [], [] => true
  | a :: as, b :: bs => same a b && sameItems as bs
  | _, _ => false

/-- Whether two maps have the same entries in the same order. -/
def sameEntries : List (Typed × Typed) → List (Typed × Typed) → Bool
  | [], [] => true
  | (k, v) :: as, (l, w) :: bs => same k l && same v w && sameEntries as bs
  | _, _ => false

end

/-! ### Texts -/

/-- The whole number that a text without quotes looks like. -/
def wholeLike? (s : String) : Option Int :=
  match s.toList with
  | '0' :: 'x' :: digits => Decimal.signedWord? 16 digits
  | '0' :: 'o' :: digits => Decimal.signedWord? 8 digits
  | '+' :: digits => Decimal.signedWord? 10 digits <|> Decimal.signedWord? 10 s.toList
  | cs => Decimal.signedWord? 10 cs

/-- The names of infinite numbers and of none that are no words. -/
def dottedNames : List String :=
  [".inf", ".Inf", ".INF", "+.inf", "+.Inf", "+.INF", "-.inf", "-.Inf", "-.INF", ".nan", ".NAN"]

/-- Whether a text without quotes looks like a number with a fraction, or is the name of one. -/
def isRealLike (s : String) : Bool :=
  dottedNames.contains s || (Decimal.float? s).isSome

/-- The value that a text without quotes and tag looks like. -/
def ofPlain (s : String) : Typed :=
  match wholeLike? s with
  | some n => .whole n
  | none =>
    if s = "~" || s = "null" then .null
    else if s = "true" then .bool true
    else if s = "false" then .bool false
    else if isRealLike s then .real s
    else .text s

/-- The value of a text without quotes whose tag is that of a common type. -/
def ofCommon (kind s : String) : Typed :=
  match kind with
  | "bool" => if s = "true" then .bool true else if s = "false" then .bool false else .unfit
  | "int" => ((Decimal.signedWord? 10 s.toList).map Typed.whole).getD .unfit
  | "float" => if isRealLike s then .real s else .unfit
  | "null" => if s = "~" || s = "null" then .null else .unfit
  | _ => .text s

/-- The value of a text; a node that was left out as a whole stands for nothing. -/
def ofText (name : Option String) (tag : Option Tag) (style : Style) (s : String) : Typed :=
  if style = .plain then
    match tag with
    | some tag => if tag.lead = Tag.commonLead then ofCommon tag.suffix s else .text s
    | none => if name.isNone && s = "" then .null else ofPlain s
  else .text s

/-! ### Nodes -/

/-- The nodes that were given names so far, with the values of those that were read to the end. -/
structure Anchors where
  names : List (String × Nat)
  values : List (Nat × Typed)

/-- Gives a name to the node that starts here. -/
def Anchors.give (a : Anchors) (name : Option String) : Option Nat × Anchors :=
  match name with
  | none => (none, a)
  | some name =>
    let id := a.names.length
    (some id, { a with names := (name, id) :: a.names })

/-- Keeps the value of the node that ends here. -/
def Anchors.keep (a : Anchors) (id : Option Nat) (value : Typed) : Anchors :=
  match id with
  | none => a
  | some id => { a with values := (id, value) :: a.values }

/-- A map as far as it was read. -/
structure Progress where
  /-- The entries so far, the last one first. -/
  entries : List (Typed × Typed)
  /-- The key that waits for its value. -/
  key : Option Typed

/-- The map continued with a key or a value.

It is the value of the key that waits for one, which must be a new key.  Where none waits it is a
key itself, but an unfit one is left out, so that what follows it takes its place. -/
def Progress.add (p : Progress) (value : Typed) : Except Fault Progress :=
  match p.key with
  | some key =>
    if p.entries.any fun entry => same entry.1 key then .error .key
    else .ok ⟨(key, value) :: p.entries, none⟩
  | none =>
    match value with
    | .unfit => .ok p
    | _ => .ok { p with key := some value }

mutual

/-- The value of a node; inside of a node its own name is unfit. -/
def ofNode : Node String → Anchors → Except Fault (Typed × Anchors)
  | .alias name, a =>
    match a.names.lookup name with
    | some id => .ok ((a.values.lookup id).getD .unfit, a)
    | none => .error (.unknownAnchor name)
  | .text name tag style s, a =>
    let (id, a) := a.give name
    let value := ofText name tag style s
    .ok (value, a.keep id value)
  | .list name _ nodes, a => do
    let (id, a) := a.give name
    let (values, a) ← ofItems nodes a
    .ok (.list values, a.keep id (.list values))
  | .map name _ nodes, a => do
    let (id, a) := a.give name
    let (p, a) ← ofEntries nodes ⟨[], none⟩ a
    let value := .map p.entries.reverse
    .ok (value, a.keep id value)

/-- The values of the items of a list. -/
def ofItems : List (Node String) → Anchors → Except Fault (List Typed × Anchors)
  | [], a => .ok ([], a)
  | node :: nodes, a => do
    let (value, a) ← ofNode node a
    let (values, a) ← ofItems nodes a
    .ok (value :: values, a)

/-- The map continued with the keys and values of more entries. -/
def ofEntries : List (Node String × Node String) → Progress → Anchors →
    Except Fault (Progress × Anchors)
  | [], p, a => .ok (p, a)
  | (keyNode, valueNode) :: nodes, p, a => do
    let (key, a) ← ofNode keyNode a
    let p ← p.add key
    let (value, a) ← ofNode valueNode a
    ofEntries nodes (← p.add value) a

end

end Typed

end QuotaShare.Yaml
