import QuotaShare.Yaml.Text.Block
import QuotaShare.Yaml.Text.Plain
import QuotaShare.Yaml.Text.Quoted
import QuotaShare.Yaml.Token.Lexer.Basic
import QuotaShare.Yaml.Token.Name

/-!
# Tokens of a text

Each reader takes one token off the text; the first characters decide which one it is.
-/

namespace QuotaShare.Yaml

namespace Lexer

/-! ### Documents -/

/-- A directive. -/
def readDirective (d : Dialect) (s : Lexer) : Except Fault Lexer := do
  let s ← s.closeAll
  let (t, c) ← Name.directive d s.cursor
  .ok (s.pushAt t c)

/-- The mark at the start of a document. -/
def readStart (s : Lexer) : Except Fault Lexer := do
  let s ← s.closeAll
  .ok (s.pushAt .documentStart (s.cursor.skip 3))

/-- The mark at the end of a document. -/
def readEnd (d : Dialect) (s : Lexer) : Except Fault Lexer := do
  let s ← s.closeAll
  let c ← (s.cursor.skip 3).skipTail d
  if d.openTails || d.endsLine c.char? then .ok (s.pushAt .documentEnd c) else .error .trailing

/-! ### Brackets -/

/-- An opening bracket. -/
def readOpen (d : Dialect) (s : Lexer) (t : Token) : Except Fault Lexer := do
  let s ← s.noteKey
  let s := s.deepen d
  if d.depth.any fun most => most ≤ s.outerStarts.length then .error .depth
  else
    let c ← (s.cursor.skip 1).skipTail d
    .ok { s.pushAt t c with
      keyAllowed := true
      keyStart := none
      outerStarts := s.keyStart :: s.outerStarts
      mapAnnounced := s.mapAnnounced || t == .openMap }

/-- A closing bracket. -/
def readClose (d : Dialect) (s : Lexer) (t : Token) : Except Fault Lexer := do
  let s ← s.dropKey
  let s := match s.outerStarts with
    | [] => s
    | keyStart :: outerStarts => { s with keyStart, outerStarts }
  let c ← (s.cursor.skip 1).skipTail d
  .ok { s.endPair.pushAt t c with keyAllowed := false, adjacent := some c.index }

/-- A comma. -/
def readComma (d : Dialect) (s : Lexer) : Except Fault Lexer := do
  let s ← s.dropKey
  let c ← (s.cursor.skip 1).skipTail d
  .ok { s.endPair.pushAt .comma c with keyAllowed := true }

/-! ### Items, keys and values -/

/-- The place after the hyphen in front of an item. -/
def afterItem (d : Dialect) (c : Cursor) : Except Fault Cursor :=
  if d.strictTabs then .ok c
  else do
    let after ← c.skipTail d
    let nested := after.char? == some '-' && d.endsWord (after.ahead? 1)
    if nested && (c.run isBlank).contains '\t' then .error .tab else .ok after

/-- A hyphen in front of an item. -/
def readItem (d : Dialect) (s : Lexer) : Except Fault Lexer :=
  if s.inBrackets then
    if d.strictIndicators then do
      let s ← s.dropKey
      .ok { s.pushAt .item (s.cursor.skip 1) with keyAllowed := true }
    else .error (.indicator '-')
  else if s.keyAllowed then do
    let s := s.openBlock s.cursor.column s.tokens.size .blockList
    let c ← afterItem d (s.cursor.skip 1)
    let apart := c.char?.any fun x => d.isBreak x || isBracketing x
    let s ← (if apart then s.deepen d else s).dropKey
    .ok { s.pushAt .item c with keyAllowed := true }
  else .error (.indicator '-')

/-- The place after the question mark in front of a key. -/
def afterKey (d : Dialect) (c : Cursor) : Except Fault Cursor :=
  if d.strictTabs then .ok c
  else
    let after := c.skipSpaces d (c.rest.length + 1)
    if after.char? == some '\t' then .error .tab
    else if after.index == c.index then .error .missing
    else .ok after

/-- A question mark in front of a key. -/
def readKey (d : Dialect) (s : Lexer) : Except Fault Lexer :=
  if s.inBrackets || s.keyAllowed then do
    let s ← (s.openBlock s.cursor.column s.tokens.size .blockMap).dropKey
    let c ← afterKey d (s.cursor.skip 1)
    .ok { s.pushAt .key c with
      keyAllowed := !s.inBrackets
      mapAnnounced := s.mapAnnounced || s.inBrackets }
  else .error (.indicator '?')

/-- The place after the colon in front of a value. -/
def afterValue (d : Dialect) (c : Cursor) : Except Fault Cursor :=
  if d.strictTabs || c.char? != some '\t' then .ok c
  else do
    let after ← c.skipTail d
    if after.char?.any isNameChar && !(c.run isBlank).contains ' ' then .error .tab else .ok after

/-- A colon in front of a value, with or without a key that may have started before it. -/
def readValue (d : Dialect) (s : Lexer) : Except Fault Lexer := do
  let colon := s.cursor
  let c ← afterValue d (colon.skip 1)
  let s := { s with inPair := s.startsPair d }
  match s.keyStart with
  | some start =>
    if s.inPair && start.cursor.line < colon.line then .error (.indicator ':')
    else
      let s := s.insert start.place .key
      let s := if s.inPair then s.insert start.place .openMap else s
      let s := (s.openBlock start.cursor.column start.place .blockMap).deepen d
      .ok { s.pushAt .value c with keyStart := none, keyAllowed := false }
  | none =>
    let s := if s.inPair then s.push .openMap else s
    if s.inBrackets || s.keyAllowed then
      let s := (s.openBlock colon.column s.tokens.size .blockMap).deepen d
      .ok { s.pushAt .value c with keyAllowed := !s.inBrackets }
    else .error (.indicator ':')

/-! ### Names and texts -/

/-- An anchor or an alias. -/
def readAnchor (d : Dialect) (s : Lexer) (t : String → Token) : Except Fault Lexer := do
  let s ← s.noteKey
  let (name, c) ← Name.anchor d s.cursor
  .ok { s.pushAt (t name) c with keyAllowed := false }

/-- A tag. -/
def readTag (d : Dialect) (s : Lexer) : Except Fault Lexer := do
  let s ← s.noteKey
  let (t, c) ← Name.tag d s.inBrackets s.cursor
  .ok { s.pushAt t c with keyAllowed := false }

/-- A block text. -/
def readBlock (d : Dialect) (s : Lexer) (style : Style) : Except Fault Lexer := do
  let s ← if d.looseBlocks then s.dropKey else s.noteKey
  let s := s.settle
  let (text, c) ← Block.read d (style == .folded) s.indent s.cursor
  .ok { s.pushAt (.text style text) c with keyAllowed := true }

/-- A quoted text. -/
def readQuoted (d : Dialect) (s : Lexer) (double : Bool) : Except Fault Lexer := do
  let s ← s.noteKey
  let (text, c) ← quotedText d s.inBrackets double s.indent s.cursor
  let s := { s.pushAt (.text .quoted text) c with keyAllowed := false }
  let s ← s.atNext d
  .ok { s with adjacent := some s.cursor.index }

/-- A plain text, after whose end a key may start only in a new line. -/
def readPlain (d : Dialect) (s : Lexer) : Except Fault Lexer := do
  let s ← s.noteKey
  let s := s.settle
  let p ← Plain.read d s.inBrackets (s.indent + 1) s.cursor
  .ok { s.pushAt (.text .plain p.text) p.after with keyAllowed := p.newLine }

/-! ### Choice -/

/-- Whether a question mark in front is an indicator. -/
def atKey (d : Dialect) (s : Lexer) : Bool :=
  (d.strictIndicators && s.inBrackets) || d.endsWord (s.cursor.ahead? 1)

/-- Whether a colon in front is an indicator. -/
def atValue (d : Dialect) (s : Lexer) : Bool :=
  let next := s.cursor.ahead? 1
  d.endsWord next || (s.inBrackets &&
    (d.strictIndicators || next.any isBracketing || s.adjacent == some s.cursor.index))

/-- Whether a plain text can start with a character that may also be an indicator. -/
def atPlain (d : Dialect) (s : Lexer) (x : Char) : Bool :=
  if x == '-' then !(s.cursor.ahead? 1).any isBlank
  else if x == '?' || x == ':' then !d.strictIndicators || !s.inBrackets
  else if x == '|' || x == '>' then !d.strictIndicators
  else !(['#', '%', '@', '\x60'].contains x)

/-- The token that starts with a character. -/
def readToken (d : Dialect) (s : Lexer) (x : Char) : Except Fault Lexer :=
  if x == '[' then s.readOpen d .openList
  else if x == '\x7b' then s.readOpen d .openMap
  else if x == ']' then s.readClose d .closeList
  else if x == '\x7d' then s.readClose d .closeMap
  else if x == ',' then s.readComma d
  else if x == '-' && d.endsWord (s.cursor.ahead? 1) then s.readItem d
  else if x == '?' && s.atKey d then s.readKey d
  else if x == ':' && s.atValue d then s.readValue d
  else if x == '*' then s.readAnchor d .alias
  else if x == '&' then s.readAnchor d .anchor
  else if x == '!' then s.readTag d
  else if x == '|' && !s.inBrackets then s.readBlock d .literal
  else if x == '>' && !s.inBrackets then s.readBlock d .folded
  else if x == '\'' then s.readQuoted d false
  else if x == '"' then s.readQuoted d true
  else if isBlank x then .error .start
  else if s.atPlain d x then s.readPlain d
  else .error .start

/-- The token in front, where no blanks are left. -/
def readNext (d : Dialect) (s : Lexer) (x : Char) : Except Fault Lexer :=
  if s.cursor.column = 0 && x == '%' then s.readDirective d
  else if s.cursor.isMarker d '-' then s.readStart
  else if s.cursor.isMarker d '.' then s.readEnd d
  else if !d.freeLines && (s.cursor.column : Int) < s.indent then .error .indentation
  else s.readToken d x

/-- The tokens of the whole text; each round takes at least one character. -/
def readAll (d : Dialect) : Nat → Lexer → Except Fault (Array Token)
  | 0, s => .ok s.tokens
  | fuel + 1, s => do
    let s ← s.atNext d
    let s ← s.expireKeys d
    let s := s.closeBlocks s.cursor.column
    match s.cursor.char? with
    | none => .ok (← s.closeAll).tokens
    | some x => readAll d fuel (← s.readNext d x)

end Lexer

/-- The part of a text that is read. -/
def readable (d : Dialect) (s : String) : Except Fault Cursor :=
  let cs := s.toList
  if !d.printableOnly then .ok (Cursor.start (cs.takeWhile (· != '\x00')))
  else if cs.all isPrintable then .ok (Cursor.start cs)
  else .error .character

/-- The tokens of a text. -/
def Token.ofText (d : Dialect) (s : String) : Except Fault (List Token) := do
  let c ← readable d s
  let tokens ← (Lexer.start c).readAll d (c.rest.length + 2)
  .ok tokens.toList

end QuotaShare.Yaml
