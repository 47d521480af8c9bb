import QuotaShare.Document.Format
import QuotaShare.Yaml.Node.Anchors
import QuotaShare.Yaml.Node.Reader

/-!
# Settings in YAML

Nodes of YAML as documents.  Any text stands for itself as it is written, numbers have to be written
without quotes, and a record or a list may be left out after its name.
-/

namespace QuotaShare.Yaml

/-- The texts that stand for nothing. -/
def isNull (s : String) : Bool :=
  s == "null" || s == "Null" || s == "NULL" || s == "~"

/-- The number in a base other than ten, for which no sign is allowed. -/
def basedWord? (cs : List Char) : Option Nat :=
  match cs with
  | '0' :: 'x' :: digits => Decimal.natural? 16 digits
  | '0' :: 'o' :: digits => Decimal.natural? 8 digits
  | '0' :: 'b' :: digits => Decimal.natural? 2 digits
  | _ => none

/-- Whether a text of digits is no number because it starts with a zero. -/
def isPadded (cs : List Char) : Bool :=
  match cs with
  | '0' :: c :: rest => (c :: rest).all Char.isDigit
  | _ => false

/-- The characters without a plus sign at the front. -/
def dropPlus (cs : List Char) : List Char :=
  match cs with
  | '+' :: rest => rest
  | _ => cs

/-- The word that a text stands for, in base ten or after a mark of another base. -/
def wordOfText? (s : String) : Option UInt64 := do
  let cs := dropPlus s.toList
  let n ← basedWord? cs <|> (if isPadded cs then none else Decimal.natural? 10 cs)
  if n < 18446744073709551616 then some n.toUInt64 else none

/-- The floating-point number that a text stands for; digits have to stand for a finite one. -/
def realOfText? (s : String) : Option Float :=
  let cs := s.toList
  let unsigned := String.ofList (dropPlus cs)
  if [".inf", ".Inf", ".INF"].contains unsigned then some (1.0 / 0.0)
  else if ["-.inf", "-.Inf", "-.INF"].contains s then some (-1.0 / 0.0)
  else if [".nan", ".NaN", ".NAN"].contains s then some (0.0 / 0.0)
  else if cs.head? == some '+' && (cs[1]?.any fun c => c == '+' || c == '-') then none
  else (Decimal.float? unsigned).filter Float.isFinite

namespace Node

variable (anchors : List (Nat × Node Nat))

/-- The text that a node stands for. -/
def text? (n : Node Nat) : Option String :=
  match n.target? anchors with
  | some (.text _ _ _ s) => some s
  | _ => none

/-- The text of a number: a plain one, or a literal one with the tag of the type. -/
def numeral? (kind : String) (n : Node Nat) : Option String :=
  match n.target? anchors with
  | some (.text _ tag style s) =>
    if style = .plain || (style = .literal && tag.any (Tag.isCommon kind)) then some s else none
  | _ => none

/-- The node of a value that may be left out.

A plain text without a tag may stand for nothing; with the tag for nothing it must not be anything
else, and with any other tag it is a value. -/
def optional? (n : Node Nat) : Option (Option (Node Nat)) :=
  match n.target? anchors with
  | none => none
  | some (.text name tag style s) =>
    match style, tag with
    | .plain, none => some (if s = "" || isNull s then none else some (.text name none .plain s))
    | .plain, some tag =>
      if tag.isCommon "null" then (if isNull s then some none else none)
      else some (some (.text name (some tag) .plain s))
    | style, tag => some (some (.text name tag style s))
  | some n => some (some n)

/-- The items of a list; one that is left out has none. -/
def items? (n : Node Nat) : Option (List (Node Nat)) :=
  match n.target? anchors with
  | some (.list _ _ items) => some items
  | some (.text _ _ .plain "") => some []
  | _ => none

/-- The entries with known names, none of which may occur twice; all names have to be texts. -/
def knownEntries (known : List String) :
    List (Node Nat × Node Nat) → ByName (Node Nat) → Option (ByName (Node Nat))
  | [], fields => some fields
  | (key, value) :: entries, fields => do
    let name ← text? anchors key
    if known.contains name then
      if fields.contains name then none
      else knownEntries known entries (fields.insert name value)
    else knownEntries known entries fields

/-- The fields of a record; one that is left out has none. -/
def record? (known : List String) (n : Node Nat) : Option (ByName (Node Nat)) :=
  match n.target? anchors with
  | some (.map _ _ entries) => knownEntries anchors known entries ∅
  | some (.text _ _ .plain "") => some ∅
  | _ => none

/-- The nodes of a document as documents, given those with numbers. -/
def format : Format (Node Nat) where
  text? := text? anchors
  word? n := (numeral? anchors "int" n).bind wordOfText?
  real? n := (numeral? anchors "float" n).bind realOfText?
  optional? := optional? anchors
  items? := items? anchors
  record? := record? anchors

end Node

/-- The only document of a text; a text without documents stands for an empty one. -/
def documentOfText (s : String) : Except Fault (Node Nat) := do
  match ← Document.ofText .yaml11 s with
  | [] => .ok Node.empty
  | [node] => do .ok (← node.number []).1
  | _ => .error .secondDocument

/-- Texts in YAML, which are read as their only document.

However often references are followed in it, a document is not refused for that, so some documents are
read that are elsewhere given up as too repetitive. -/
def reader : Reader Fault (Node Nat) where
  document := documentOfText
  format node := Node.format node.anchored
  shape := .shape
  message := Fault.message

end QuotaShare.Yaml
