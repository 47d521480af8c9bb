import QuotaShare.Document.Layered
import QuotaShare.Yaml.Node.Reader
import QuotaShare.Yaml.Typed

/-!
# Files as layers

The typed values of a YAML document as a layer of settings, in which all keys are names.
-/

namespace QuotaShare

namespace Yaml.Typed

/-- The name that a key stands for. -/
def name? : Typed → Option String
  | .bool b => some (if b then "true" else "false")
  | .whole n => some (toString n)
  | .real s => some s
  | .text s => some s
  | _ => none

mutual

/-- The value with names for keys; what is unfit stands for nothing, and a number with a fraction
has to be written in digits or to be named by a word. -/
def toJson : Typed → Except Fault Json
  | .null | .unfit => .ok .null
  | .bool b => .ok (.bool b)
  | .whole n => .ok (.whole n)
  | .real s =>
    match Decimal.float? s with
    | some x => .ok (.real x)
    | none => .error .number
  | .text s => .ok (.text s)
  | .list items => do .ok (.list (← toJsonItems items))
  | .map entries => do .ok (.object (← toJsonMembers entries))

/-- The items of a list with names for keys. -/
def toJsonItems : List Typed → Except Fault (List Json)
  | [] => .ok []
  | item :: items => do
    let value ← toJson item
    .ok (value :: (← toJsonItems items))

/-- The entries of a map with names for keys. -/
def toJsonMembers : List (Typed × Typed) → Except Fault (List (String × Json))
  | [] => .ok []
  | (key, value) :: entries =>
    match key.name? with
    | some name => do
      let value ← toJson value
      .ok ((name, value) :: (← toJsonMembers entries))
    | none => .error .key

end

end Yaml.Typed

namespace Layered

open Yaml

/-- The layer that a text stands for: its document, which has to be an object, if it has one. -/
def ofFile (s : String) : Except Fault (List (String × Json)) := do
  match ← Document.ofText .yaml12 s with
  | [] => .ok []
  | [node] =>
    match ← (← Typed.ofNode node ⟨[], []⟩).1.toJson with
    | .object ms => .ok ms
    | _ => .error .shape
  | _ => .error .secondDocument

end Layered

end QuotaShare
