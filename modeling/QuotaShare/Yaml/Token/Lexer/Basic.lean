import QuotaShare.Yaml.Cursor
import QuotaShare.Yaml.Token

/-!
# Lexers of YAML

What is known of a text whose tokens were read up to a place: the blocks and brackets around it,
and where keys may have started.  Where a block starts, and that a text was a key, is known only
when the colon after the key is met; the tokens that say so are then put in at the place where the
key started.
-/

namespace QuotaShare.Yaml

/-- A place at which a key may have started. -/
structure KeyStart where
  /-- The number of tokens before the key. -/
  place : Nat
  cursor : Cursor
  /-- Whether the key is the only thing that can start there. -/
  required : Bool

/-- A column that lines have to reach. -/
structure Level where
  column : Nat
  /-- Whether it is the column of a block; otherwise it is that of what a key, an item or a bracket
  of a block may hold. -/
  isBlock : Bool

/-- A text whose tokens were read up to a place. -/
structure Lexer where
  cursor : Cursor
  tokens : Array Token
  /-- The columns that lines have to reach, the innermost and greatest first. -/
  levels : List Level
  /-- Whether a key may start here. -/
  keyAllowed : Bool
  /-- Where a key may have started, between the innermost brackets and between those around them. -/
  keyStart : Option KeyStart
  outerStarts : List (Option KeyStart)
  /-- The place at which a colon belongs to the quoted text or the list before it. -/
  adjacent : Option Nat
  /-- Whether a brace or a question mark between brackets announced a map. -/
  mapAnnounced : Bool
  /-- Whether a map with a single entry and no braces was started. -/
  inPair : Bool

namespace Lexer

/-- The start of a text. -/
def start (cursor : Cursor) : Lexer where
  cursor
  tokens := #[]
  levels := []
  keyAllowed := true
  keyStart := none
  outerStarts := []
  adjacent := none
  mapAnnounced := false
  inPair := false

/-- Whether the place is between brackets. -/
def inBrackets (s : Lexer) : Bool :=
  !s.outerStarts.isEmpty

/-- The column that lines have to reach; it is negative outside of all blocks. -/
def indent (s : Lexer) : Int :=
  match s.levels with
  | [] => -1
  | level :: _ => level.column

/-- Whether the innermost column is that of a block. -/
def inBlock (s : Lexer) : Bool :=
  s.levels.head?.any Level.isBlock

/-- Adds a token. -/
def push (s : Lexer) (t : Token) : Lexer :=
  { s with tokens := s.tokens.push t }

/-- Adds a token, and moves on behind it. -/
def pushAt (s : Lexer) (t : Token) (c : Cursor) : Lexer :=
  { s.push t with cursor := c }

/-- Puts in a token in front of those after the first `place` ones. -/
def insert (s : Lexer) (place : Nat) (t : Token) : Lexer :=
  { s with tokens := s.tokens.insertIdxIfInBounds place t }

/-! ### Keys -/

/-- Forgets a place at which a key may have started; a required key must not be missing. -/
def forget (k : Option KeyStart) : Except Fault (Option KeyStart) :=
  if k.any KeyStart.required then .error .lonelyKey else .ok none

/-- Forgets the place at which the innermost key may have started. -/
def dropKey (s : Lexer) : Except Fault Lexer := do
  .ok { s with keyStart := ← forget s.keyStart }

/-- Whether the text has gone on too far for a key: a key fits one line and 1024 units of length. -/
def isOver (d : Dialect) (start c : Cursor) : Bool :=
  start.line < c.line ||
    if d.bytewiseKeys then start.bytes + 1024 < c.bytes else start.index + 1024 < c.index

/-- Forgets a place when the text has gone on too far. -/
def expire (d : Dialect) (c : Cursor) (k : Option KeyStart) : Except Fault (Option KeyStart) :=
  if k.any fun start => isOver d start.cursor c then forget k else .ok k

/-- Forgets the places that are too far away. -/
def expireKeys (d : Dialect) (s : Lexer) : Except Fault Lexer :=
  if d.shortKeys || !s.inBrackets then do
    let keyStart ← expire d s.cursor s.keyStart
    let outerStarts ← s.outerStarts.mapM (expire d s.cursor)
    .ok { s with keyStart, outerStarts }
  else .ok s

/-- Remembers that a key may start here, if one may. -/
def noteKey (s : Lexer) : Except Fault Lexer :=
  if s.keyAllowed then do
    let s ← s.dropKey
    let required := !s.inBrackets && s.inBlock && s.indent == s.cursor.column
    .ok { s with keyStart := some ⟨s.tokens.size, s.cursor, required⟩ }
  else .ok s

/-! ### Blocks -/

/-- Leaves the columns inside of the innermost block. -/
def settle (s : Lexer) : Lexer :=
  { s with levels := s.levels.dropWhile fun level => !level.isBlock }

/-- Moves the lines of what a block holds to the right of its column. -/
def deepen (d : Dialect) (s : Lexer) : Lexer :=
  match s.levels with
  | ⟨column, true⟩ :: _ =>
    if d.freeLines || s.inBrackets then s else { s with levels := ⟨column + 1, false⟩ :: s.levels }
  | _ => s

/-- The columns without the innermost one, if that is no block and not right of a given column. -/
def leave (column : Nat) (levels : List Level) : List Level :=
  match levels with
  | ⟨inner, false⟩ :: outer => if inner ≤ column then outer else levels
  | _ => levels

/-- Starts a block at a column, unless the innermost block reaches it. -/
def openBlock (s : Lexer) (column : Nat) (place : Nat) (t : Token) : Lexer :=
  if s.inBrackets then s
  else
    let s := { s with levels := leave column s.levels }
    if s.indent < (column : Int) then
      { s.insert place t with levels := ⟨column, true⟩ :: s.levels }
    else s

/-- Ends the blocks right of a column; between brackets there are none. -/
def closeBlocks (s : Lexer) (column : Int) : Lexer :=
  if s.inBrackets then s
  else
    let closed := s.levels.takeWhile fun level => column < level.column
    let ends := (closed.filter Level.isBlock).map fun _ => Token.blockEnd
    { s with tokens := s.tokens ++ ends, levels := s.levels.drop closed.length }

/-- Ends all blocks, after which no key may start. -/
def closeAll (s : Lexer) : Except Fault Lexer := do
  .ok { ← (s.closeBlocks (-1)).dropKey with keyAllowed := false }

/-! ### Pairs -/

/-- Whether a colon here belongs to a map with a single entry and no braces whose end is marked. -/
def startsPair (d : Dialect) (s : Lexer) : Bool :=
  !d.openPairs && s.inBrackets && !s.mapAnnounced

/-- Ends the map with a single entry in which the place is, if there is one. -/
def endPair (s : Lexer) : Lexer :=
  if s.inPair then { s.push .closeMap with inPair := false, mapAnnounced := false } else s

/-! ### Blanks -/

/-- Whether a tab here stands for indentation. -/
def atIndentation (d : Dialect) (s : Lexer) : Bool :=
  !d.strictTabs && s.cursor.indented && !s.levels.isEmpty && (s.cursor.column : Int) < s.indent

/-- Whether a character in front is skipped. -/
def skips (d : Dialect) (s : Lexer) (x : Char) : Bool :=
  x == ' ' || (x == '\t' && (!d.strictTabs || s.inBrackets || !s.keyAllowed)) ||
    (x == '\uFEFF' && d.markedLines && s.cursor.column == 0)

/-- Moves on to the next token, over blanks, comments and ends of lines. -/
def skipBlanks (d : Dialect) : Nat → Lexer → Except Fault Lexer
  | 0, s => .ok s
  | fuel + 1, s =>
    match s.cursor.char? with
    | none => .ok s
    | some x =>
      if x == '\t' && s.atIndentation d then do
        let c ← s.cursor.skipTail d
        if d.endsLine c.char? then skipBlanks d fuel { s with cursor := c } else .error .tab
      else if s.skips d x then skipBlanks d fuel { s with cursor := s.cursor.skip 1 }
      else if x == '#' then skipBlanks d fuel { s with cursor := s.cursor.endOfLine d }
      else if d.isBreak x then
        skipBlanks d fuel
          { s with cursor := s.cursor.nextLine.2, keyAllowed := s.keyAllowed || !s.inBrackets }
      else .ok s

/-- The place of the next token. -/
def atNext (d : Dialect) (s : Lexer) : Except Fault Lexer :=
  s.skipBlanks d (s.cursor.rest.length + 1)

end Lexer

end QuotaShare.Yaml
