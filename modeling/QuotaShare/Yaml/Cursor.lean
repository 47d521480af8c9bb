import QuotaShare.Yaml.Dialect
import QuotaShare.Yaml.Fault

/-!
# Cursors

Places in a text, with their line and column, and the ways to move on from them.
-/

namespace QuotaShare.Yaml

/-- A place in a text, and the characters from there on. -/
structure Cursor where
  rest : List Char
  /-- The number of characters before the place. -/
  index : Nat
  /-- The number of bytes before the place. -/
  bytes : Nat
  line : Nat
  column : Nat
  /-- Whether only blanks precede the place in its line. -/
  indented : Bool

namespace Cursor

/-- The start of a text. -/
def start (cs : List Char) : Cursor := ⟨cs, 0, 0, 0, 0, true⟩

/-- The character at a place. -/
def char? (c : Cursor) : Option Char :=
  c.rest.head?

/-- The character `n` places further on. -/
def ahead? (c : Cursor) (n : Nat) : Option Char :=
  c.rest[n]?

/-- The number of bytes of some characters. -/
def byteCount (cs : List Char) : Nat :=
  cs.foldl (fun n c => n + c.utf8Size) 0

/-- The place after `n` characters of the same line. -/
def skip (c : Cursor) (n : Nat) : Cursor :=
  let passed := c.rest.take n
  { c with
    rest := c.rest.drop n
    index := c.index + passed.length
    bytes := c.bytes + byteCount passed
    column := c.column + passed.length
    indented := c.indented && passed.all isBlank }

/-- The characters of a class at the front. -/
def run (c : Cursor) (p : Char → Bool) : List Char :=
  c.rest.takeWhile p

/-- The place after the characters of a class. -/
def skipRun (c : Cursor) (p : Char → Bool) : Cursor :=
  c.skip (c.run p).length

/-- The place after an end of line of `n` characters, at the start of the next line. -/
def pass (c : Cursor) (n : Nat) : Cursor :=
  { c.skip n with line := c.line + 1, column := 0, indented := true }

/-- The place at the start of the next line, and the end of line that was passed.

A carriage return with a line feed is one end of line, and all of them are read as line feeds but
the two separators, which are kept. -/
def nextLine (c : Cursor) : List Char × Cursor :=
  match c.rest with
  | [] => ([], c)
  | '\r' :: '\n' :: _ => (['\n'], c.pass 2)
  | b :: _ => (if b == '\u2028' || b == '\u2029' then [b] else ['\n'], c.pass 1)

/-- Whether three equal characters stand alone at the start of a line. -/
def isMarker (d : Dialect) (c : Cursor) (mark : Char) : Bool :=
  c.column == 0 && c.rest.take 3 == [mark, mark, mark] && d.endsWord (c.ahead? 3)

/-- Whether a document starts or ends here. -/
def isAnyMarker (d : Dialect) (c : Cursor) : Bool :=
  c.isMarker d '-' || c.isMarker d '.'

/-- The place at the end of the line. -/
def endOfLine (d : Dialect) (c : Cursor) : Cursor :=
  c.skipRun fun x => !d.isBreak x

/-- The place after the blanks and the comment that follow a token in its line. -/
def skipTail (d : Dialect) (c : Cursor) : Except Fault Cursor :=
  let after := c.skipRun isBlank
  if after.char? == some '#' then
    if !d.tightComments && after.index == c.index then .error .comment
    else .ok (after.endOfLine d)
  else .ok after

/-- The place after spaces, ends of lines and comments. -/
def skipSpaces (d : Dialect) : Nat → Cursor → Cursor
  | 0, c => c
  | fuel + 1, c =>
    match c.char? with
    | none => c
    | some x =>
      if x == ' ' then skipSpaces d fuel (c.skip 1)
      else if x == '#' then skipSpaces d fuel (c.endOfLine d)
      else if d.isBreak x then skipSpaces d fuel c.nextLine.2
      else c

end Cursor

/-- What stands between two words of a text that may go on in later lines. -/
structure Gap where
  /-- Whether the place after it is in a later line. -/
  later : Bool
  /-- The blanks before the end of the first line. -/
  blanks : List Char
  /-- The ends of lines. -/
  breaks : List Char
  after : Cursor

namespace Gap

/-- The gap as far as it was read, continued from a place.

A tab that starts a later line left of a column is left to `tabbed`. -/
def extend (d : Dialect) (column : Int) (tabbed : Cursor → Except Fault Cursor) :
    Nat → Gap → Except Fault Gap
  | 0, g => .ok g
  | fuel + 1, g =>
    match g.after.char? with
    | none => .ok g
    | some x =>
      if d.isBreak x then
        let (b, after) := g.after.nextLine
        extend d column tabbed fuel { g with later := true, breaks := g.breaks ++ b, after }
      else if !isBlank x then .ok g
      else if !g.later then
        extend d column tabbed fuel { g with blanks := g.blanks ++ [x], after := g.after.skip 1 }
      else if x == '\t' && (g.after.column : Int) < column then do
        extend d column tabbed fuel { g with after := ← tabbed g.after }
      else extend d column tabbed fuel { g with after := g.after.skip 1 }

/-- The gap at a place, which may be known to be in a later line already. -/
def read (d : Dialect) (column : Int) (tabbed : Cursor → Except Fault Cursor) (later : Bool)
    (c : Cursor) : Except Fault Gap :=
  extend d column tabbed (c.rest.length + 1) ⟨later, [], [], c⟩

/-- What a gap stands for: a single end of line is a space, and of more the first is left out. -/
def folded (g : Gap) : List Char :=
  match g.breaks with
  | [] => g.blanks
  | ['\n'] => [' ']
  | '\n' :: more => more
  | all => all

end Gap

end QuotaShare.Yaml
