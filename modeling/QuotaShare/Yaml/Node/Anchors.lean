import QuotaShare.Yaml.Fault
import QuotaShare.Yaml.Node

/-!
# Anchors

The resolution of names within a document.  Each name is given the number of different names that
were given before it, and a number stands for the last node that it was given to.
-/

namespace QuotaShare.Yaml.Node

/-- The numbers of the names that were given so far. -/
abbrev Numbers := List (String × Nat)

/-- The number of a name that is given to a node, and the numbers after it. -/
def give (numbers : Numbers) (name : Option String) : Option Nat × Numbers :=
  match name with
  | none => (none, numbers)
  | some name =>
    let id := numbers.length
    (some id, (name, id) :: numbers.filter fun n => n.1 != name)

mutual

/-- The node with numbers for names; every name has to be given before it is used. -/
def number : Node String → Numbers → Except Fault (Node Nat × Numbers)
  | .alias name, numbers =>
    match numbers.lookup name with
    | some id => .ok (.alias id, numbers)
    | none => .error (.unknownAnchor name)
  | .text name tag style s, numbers =>
    let (id, numbers) := give numbers name
    .ok (.text id tag style s, numbers)
  | .list name tag items, numbers => do
    let (id, numbers) := give numbers name
    let (items, numbers) ← numberItems items numbers
    .ok (.list id tag items, numbers)
  | .map name tag entries, numbers => do
    let (id, numbers) := give numbers name
    let (entries, numbers) ← numberEntries entries numbers
    .ok (.map id tag entries, numbers)

/-- The items of a list with numbers for names. -/
def numberItems : List (Node String) → Numbers → Except Fault (List (Node Nat) × Numbers)
  | [], numbers => .ok ([], numbers)
  | item :: items, numbers => do
    let (item, numbers) ← number item numbers
    let (items, numbers) ← numberItems items numbers
    .ok (item :: items, numbers)

/-- The entries of a map with numbers for names. -/
def numberEntries : List (Node String × Node String) → Numbers →
    Except Fault (List (Node Nat × Node Nat) × Numbers)
  | [], numbers => .ok ([], numbers)
  | (key, value) :: entries, numbers => do
    let (key, numbers) ← number key numbers
    let (value, numbers) ← number value numbers
    let (entries, numbers) ← numberEntries entries numbers
    .ok ((key, value) :: entries, numbers)

end

/-- A node under its number, if it has one. -/
def numbered (id : Option Nat) (n : Node Nat) : List (Nat × Node Nat) :=
  match id with
  | some id => [(id, n)]
  | none => []

mutual

/-- The nodes with numbers, in the order in which they start. -/
def anchored : Node Nat → List (Nat × Node Nat)
  | .alias _ => []
  | .text id tag style s => numbered id (.text id tag style s)
  | .list id tag items => numbered id (.list id tag items) ++ anchoredItems items
  | .map id tag entries => numbered id (.map id tag entries) ++ anchoredEntries entries

/-- The nodes with numbers in the items of a list. -/
def anchoredItems : List (Node Nat) → List (Nat × Node Nat)
  | [] => []
  | item :: items => anchored item ++ anchoredItems items

/-- The nodes with numbers in the entries of a map. -/
def anchoredEntries : List (Node Nat × Node Nat) → List (Nat × Node Nat)
  | [] => []
  | (key, value) :: entries => anchored key ++ (anchored value ++ anchoredEntries entries)

end

/-- The node that a node stands for: what a reference refers to, or the node itself.

References can be followed any number of times; there is no bound here on how much of a document is
read again in this way, so a document in which references multiply is read and not refused. -/
def target? (anchors : List (Nat × Node Nat)) : Node Nat → Option (Node Nat)
  | .alias id => (anchors.reverse.find? fun a => a.1 == id).map Prod.snd
  | n => some n

end QuotaShare.Yaml.Node
