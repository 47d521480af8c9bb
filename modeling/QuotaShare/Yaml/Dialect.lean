/-!
# Dialects of YAML

The classes of characters of YAML texts, and the decisions in which the two versions of the
language differ.
-/

namespace QuotaShare.Yaml

/-- What depends on the version of the language. -/
structure Dialect where
  /-- Whether the next line, the line separator and the paragraph separator end a line as well. -/
  wideBreaks : Bool
  /-- Whether only printable characters may occur; otherwise a zero character ends the text. -/
  printableOnly : Bool
  /-- Whether a mark of the byte order may start any line; otherwise it is part of a text. -/
  markedLines : Bool
  /-- Whether a tab in front of a token is an error wherever a key could start; otherwise it only is
  one where it stands for indentation. -/
  strictTabs : Bool
  /-- Whether `?` and `:` are always indicators between brackets; otherwise that depends on what
  follows them. -/
  strictIndicators : Bool
  /-- Whether lines between brackets or quotes, and the one after a block text, may start left of
  the text around them. -/
  freeLines : Bool
  /-- Whether a comment may follow a token without a blank between them. -/
  tightComments : Bool
  /-- Whether anything may follow a quoted text or the end of a document in its line. -/
  openTails : Bool
  /-- Whether keys between brackets have to fit one line, as other keys have to. -/
  shortKeys : Bool
  /-- Whether the length of a key is counted in bytes instead of in characters. -/
  bytewiseKeys : Bool
  /-- Whether a value needs a key, which may be empty, in front of it. -/
  keyedValues : Bool
  /-- Whether a map in a list that has a single entry and no braces is marked by its key alone;
  otherwise its end is marked as well. -/
  openPairs : Bool
  /-- The greatest number of brackets around a place, if there is one. -/
  depth : Option Nat
  /-- Whether a block text may start in the column of the keys around it. -/
  looseBlocks : Bool
  /-- Whether a block text has to be indented outside of all blocks as well. -/
  indentedBlocks : Bool
  /-- Whether the last line of a block text keeps the end of the text as its end. -/
  openLastLine : Bool
  /-- Whether directives have to be known, to ask for a known version of the language, and to
  declare different handles; otherwise only the last directive declares a handle. -/
  strictDirectives : Bool
  /-- Whether the first document has to start before it can end. -/
  startsFirst : Bool
  /-- Whether names of anchors consist of letters, digits, hyphens and underscores only. -/
  plainAnchors : Bool
  /-- Whether tags are written in bytes, of which a zero byte is the end, and may hold exclamation
  marks, but no number signs. -/
  bytewiseTags : Bool

/-- Version 1.1 of the language. -/
def Dialect.yaml11 : Dialect where
  wideBreaks := true
  printableOnly := true
  markedLines := true
  strictTabs := true
  strictIndicators := true
  freeLines := true
  tightComments := true
  openTails := true
  shortKeys := true
  bytewiseKeys := true
  keyedValues := true
  openPairs := true
  depth := none
  looseBlocks := true
  indentedBlocks := true
  openLastLine := true
  strictDirectives := true
  startsFirst := true
  plainAnchors := true
  bytewiseTags := true

/-- Version 1.2 of the language. -/
def Dialect.yaml12 : Dialect where
  wideBreaks := false
  printableOnly := false
  markedLines := false
  strictTabs := false
  strictIndicators := false
  freeLines := false
  tightComments := false
  openTails := false
  shortKeys := false
  bytewiseKeys := false
  keyedValues := false
  openPairs := false
  depth := some 255
  looseBlocks := false
  indentedBlocks := false
  openLastLine := false
  strictDirectives := false
  startsFirst := false
  plainAnchors := false
  bytewiseTags := false

/-- Spaces and tabs. -/
def isBlank (c : Char) : Bool :=
  c == ' ' || c == '\t'

/-- The characters between brackets that end a plain text. -/
def isBracketing (c : Char) : Bool :=
  c == ',' || c == '[' || c == ']' || c == '\x7b' || c == '\x7d'

/-- The characters of names: letters, digits, hyphens and underscores. -/
def isNameChar (c : Char) : Bool :=
  c.isAlphanum || c == '-' || c == '_'

/-- The characters that a text of printable characters may hold. -/
def isPrintable (c : Char) : Bool :=
  let n := c.toNat
  n == 0x09 || n == 0x0A || n == 0x0D || (0x20 ≤ n && n ≤ 0x7E) || n == 0x85 ||
    (0xA0 ≤ n && n ≤ 0xFFFD) || 0x10000 ≤ n

namespace Dialect

variable (d : Dialect)

/-- The characters that end a line. -/
def isBreak (c : Char) : Bool :=
  c == '\n' || c == '\r' ||
    (d.wideBreaks && (c == '\u0085' || c == '\u2028' || c == '\u2029'))

/-- Whether a character, if there is one, ends a line. -/
def endsLine : Option Char → Bool
  | none => true
  | some c => d.isBreak c

/-- Whether a character, if there is one, is a blank or ends a line. -/
def endsWord : Option Char → Bool
  | none => true
  | some c => isBlank c || d.isBreak c

/-- The characters of the names of anchors. -/
def isAnchorChar (c : Char) : Bool :=
  if d.plainAnchors then isNameChar c
  else !isBlank c && !d.isBreak c && !isBracketing c && c != '\uFEFF'

end Dialect

end QuotaShare.Yaml
