import QuotaShare.ByName
import QuotaShare.Network.Address

/-!
# Formats of documents

A document is a tree from which settings are read.  A format says how texts, numbers, lists and
records are found in the trees of one kind, so that what is read is described only once.  A reader
says besides how trees are made of texts.
-/

namespace QuotaShare

/-- How values are found in documents. -/
structure Format (δ : Type) where
  /-- The text that a document stands for. -/
  text? : δ → Option String
  /-- The word that a document stands for. -/
  word? : δ → Option UInt64
  /-- The floating-point number that a document stands for. -/
  real? : δ → Option Float
  /-- The document of a value that may be left out, unless it stands for nothing. -/
  optional? : δ → Option (Option δ)
  /-- The items of a list. -/
  items? : δ → Option (List δ)
  /-- The fields of a record, of which the given names are known; other fields do not matter. -/
  record? : List String → δ → Option (ByName δ)

namespace Format

variable {δ α : Type} (f : Format δ)

/-- A value that may be left out. -/
def optionalOf? (read : δ → Option α) (d : δ) : Option (Option α) := do
  match ← f.optional? d with
  | none => some none
  | some d => (read d).map some

/-- A list of values. -/
def listOf? (read : δ → Option α) (d : δ) : Option (List α) := do
  (← f.items? d).mapM read

/-- An address. -/
def address? (d : δ) : Option SocketAddress :=
  (f.text? d).bind SocketAddress.ofText?

end Format

/-- How texts are read: a parser, and how values are found in the documents that it makes of them. -/
structure Reader (ε δ : Type) where
  /-- The document of a text, unless the text is faulty. -/
  document : String → Except ε δ
  /-- How values are found in a document. -/
  format : δ → Format δ
  /-- The fault of a document in which the values are not found. -/
  shape : ε
  /-- The message for a fault. -/
  message : ε → String

/-- What the document of a text stands for. -/
def Reader.decode {ε δ α : Type} (r : Reader ε δ) (read : Format δ → δ → Option α) (s : String) :
    Except ε α := do
  let d ← r.document s
  match read (r.format d) d with
  | some a => .ok a
  | none => .error r.shape

/-- The value of a field, or what stands in for it when the record does not have the field. -/
def field? {δ α : Type} (fields : ByName δ) (name : String) (absent : Option α)
    (read : δ → Option α) : Option α :=
  match fields[name]? with
  | none => absent
  | some d => read d

end QuotaShare
