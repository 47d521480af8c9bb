/-!
# Faults of YAML texts

The reasons for which a text is not a document.
-/

namespace QuotaShare.Yaml

/-- Why a text is not a document. -/
inductive Fault where
  /-- A character that may not occur at all. -/
  | character
  /-- A character that starts no token. -/
  | start
  /-- A tab where indentation is expected. -/
  | tab
  /-- A line that starts too far to the left. -/
  | indentation
  /-- A comment without a blank in front of it. -/
  | comment
  /-- Something that follows in a line that has to be over. -/
  | trailing
  /-- More brackets around a place than there may be. -/
  | depth
  /-- A key without the colon that has to follow it. -/
  | lonelyKey
  /-- An indicator in a place where it has no meaning. -/
  | indicator (c : Char)
  | directive
  | anchor
  | tag
  /-- An escape that stands for no character. -/
  | escape
  /-- A quoted text that does not end. -/
  | unclosed
  /-- A block text whose first line says something else than how to read it. -/
  | blockHeader
  /-- A node, a key or an item is missing. -/
  | missing
  /-- A name that no anchor has. -/
  | unknownAnchor (name : String)
  /-- A second document where one is expected. -/
  | secondDocument
  /-- A key that occurs twice, or that has no name. -/
  | key
  /-- The name of a number that is no word. -/
  | number
  /-- A document that is something else than it has to be. -/
  | shape
  deriving DecidableEq, Repr

/-- The text of a reason. -/
def Fault.message : Fault → String
  | character => "the text holds a control character"
  | start => "no token starts with this character"
  | tab => "a tab stands in place of indentation"
  | indentation => "a line is not indented enough"
  | comment => "a comment does not follow a blank"
  | trailing => "a line goes on after its end"
  | depth => "there are too many brackets around a place"
  | lonelyKey => "a key is not followed by a colon"
  | indicator c => "the indicator " ++ String.singleton c ++ " is misplaced"
  | directive => "a directive cannot be read"
  | anchor => "the name of an anchor is malformed"
  | tag => "a tag is malformed"
  | escape => "an escape stands for no character"
  | unclosed => "a quoted text does not end"
  | blockHeader => "the first line of a block text is malformed"
  | missing => "a node is missing or misplaced"
  | unknownAnchor name => "there is no anchor " ++ name
  | secondDocument => "there is more than one document"
  | key => "a key is repeated or has no name"
  | number => "the name of a number cannot be read"
  | shape => "the document does not have the expected form"

end QuotaShare.Yaml
