import QuotaShare.Yaml.Token

/-!
# Nodes of YAML

The trees that documents denote.  A node may have a name by which other places refer to it; the
names of a document that was just read are texts.
-/

namespace QuotaShare.Yaml

/-- A tag, which consists of what its handle stands for and the rest. -/
structure Tag where
  lead : String
  suffix : String
  deriving DecidableEq, Repr

namespace Tag

/-- The text of a tag. -/
def text (t : Tag) : String := t.lead ++ t.suffix

/-- The start of the tags of the common types. -/
def commonLead : String := "tag:yaml.org,2002:"

/-- Whether a tag has the text of that of a common type. -/
def isCommon (kind : String) (t : Tag) : Bool := t.text == commonLead ++ kind

end Tag

/-- A node of a document whose names are of a given type. -/
inductive Node (ι : Type) where
  | text (name : Option ι) (tag : Option Tag) (style : Style) (s : String)
  | list (name : Option ι) (tag : Option Tag) (items : List (Node ι))
  | map (name : Option ι) (tag : Option Tag) (entries : List (Node ι × Node ι))
  /-- A reference to the node with a name. -/
  | alias (name : ι)

namespace Node

variable {ι : Type}

/-- A text that is left out. -/
def empty : Node ι := .text none none .plain ""

end Node

end QuotaShare.Yaml
