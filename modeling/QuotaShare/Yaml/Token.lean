/-!
# Tokens of YAML

The pieces of which documents are made: indicators, names, texts, and the starts and ends of blocks,
which are written by indentation alone.
-/

namespace QuotaShare.Yaml

/-- The ways to write a text. -/
inductive Style where
  | plain
  | quoted
  /-- A block whose lines are kept. -/
  | literal
  /-- A block whose lines are folded. -/
  | folded
  deriving DecidableEq, Repr

/-- A piece of a document. -/
inductive Token where
  /-- The version of the language that a document is written in. -/
  | version (major minor : Nat)
  /-- What a tag handle stands for. -/
  | handle (name lead : String)
  | documentStart
  | documentEnd
  | blockList
  | blockMap
  | blockEnd
  | openList
  | closeList
  | openMap
  | closeMap
  /-- The hyphen in front of an item of a block. -/
  | item
  /-- The comma between items. -/
  | comma
  | key
  | value
  | alias (name : String)
  | anchor (name : String)
  | tag (handle suffix : String)
  | text (style : Style) (s : String)
  deriving DecidableEq, Repr

end QuotaShare.Yaml
