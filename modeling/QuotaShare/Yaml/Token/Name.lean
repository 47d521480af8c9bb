import QuotaShare.Decimal.Numeral
import QuotaShare.Yaml.Cursor
import QuotaShare.Yaml.Token

/-!
# Names in YAML

Anchors, aliases, tags and directives: the tokens whose text is a name.
-/

namespace QuotaShare.Yaml.Name

/-! ### Anchors -/

/-- The characters that may follow the name of an anchor. -/
def endsAnchor (d : Dialect) (c : Option Char) : Bool :=
  d.endsWord c || match c with
    | some x => ['?', ':', ',', ']', '\x7d', '%', '@', '\x60'].contains x
    | none => false

/-- The name after the indicator of an anchor or an alias. -/
def anchor (d : Dialect) (c : Cursor) : Except Fault (String × Cursor) :=
  let c := c.skip 1
  let name := c.run d.isAnchorChar
  let after := c.skip name.length
  if name.isEmpty || (d.plainAnchors && !endsAnchor d after.char?) then .error .anchor
  else .ok (String.ofList name, after)

/-! ### Tags -/

/-- The characters of tags and of what handles stand for. -/
def isTagChar (d : Dialect) (c : Char) : Bool :=
  isNameChar c || c == ',' || c == '[' || c == ']' || (!d.bytewiseTags && c == '#') ||
    [';', '/', '?', ':', '@', '&', '=', '+', '$', '.', '!', '~', '*', '\'', '(', ')'].contains c

/-- The characters of a tag without angle brackets. -/
def isShortTagChar (d : Dialect) (c : Char) : Bool :=
  isTagChar d c && !isBracketing c && (d.bytewiseTags || c != '!')

/-- The byte that is written as a percent sign and two digits. -/
def escapedByte? (c : Cursor) : Option (Nat × Cursor) :=
  match c.rest with
  | '%' :: a :: b :: _ => (Decimal.natural? 16 [a, b]).map fun n => (n, c.skip 3)
  | _ => none

/-- The number of bytes after the first byte of a character. -/
def following? (first : Nat) : Option Nat :=
  if first < 0x80 then some 0
  else if 0xC0 ≤ first ∧ first < 0xE0 then some 1
  else if 0xE0 ≤ first ∧ first < 0xF0 then some 2
  else if 0xF0 ≤ first ∧ first < 0xF8 then some 3
  else none

/-- The given number of escaped bytes that continue a character. -/
def continuation? : Nat → Cursor → Option (List Nat × Cursor)
  | 0, c => some ([], c)
  | n + 1, c => do
    let (b, c) ← escapedByte? c
    let (bs, c) ← if 0x80 ≤ b ∧ b < 0xC0 then continuation? n c else none
    some (b :: bs, c)

/-- The code point in a given number of bytes. -/
def codeOfBytes (first : Nat) (more : List Nat) : Nat :=
  let lead := if more.isEmpty then first else first % Nat.pow 2 (6 - more.length)
  more.foldl (fun code b => code * 64 + b % 64) lead

/-- The character in some bytes.

A tag in bytes may hold any of them, so those that are no character are replaced.  Otherwise the
bytes are the digits of a code point. -/
def charOfBytes? (d : Dialect) (first : Nat) (more : List Nat) : Option Char :=
  if d.bytewiseTags then
    let code := codeOfBytes first more
    let isChar := code.isValidChar && (more.isEmpty || 0x80 ≤ code)
    some (if isChar then Char.ofNat code else '\uFFFD')
  else
    let code := more.foldl (fun code b => code * 256 + b) first
    if code.isValidChar then some (Char.ofNat code) else none

/-- The character that is written by escaped bytes. -/
def escapedChar? (d : Dialect) (c : Cursor) : Option (Char × Cursor) := do
  let (first, c) ← escapedByte? c
  let (more, c) ← continuation? (← following? first) c
  some (← charOfBytes? d first more, c)

/-- The characters of a class and escaped ones, which are put in front of `done` in reverse
order. -/
def tagChars (d : Dialect) (p : Char → Bool) :
    Nat → List Char → Cursor → Except Fault (List Char × Cursor)
  | 0, done, c => .ok (done, c)
  | fuel + 1, done, c =>
    match c.char? with
    | none => .ok (done, c)
    | some x =>
      if x == '%' then
        match escapedChar? d c with
        | some (char, c) => tagChars d p fuel (char :: done) c
        | none => .error .tag
      else if p x then tagChars d p fuel (x :: done) (c.skip 1)
      else .ok (done, c)

/-- The end of a tag of characters of a class that starts with the given characters. -/
def tagEnd (d : Dialect) (p : Char → Bool) (lead : List Char) (c : Cursor) :
    Except Fault (List Char × Cursor) := do
  let (done, c) ← tagChars d p (c.rest.length + 1) lead.reverse c
  .ok (done.reverse, c)

/-- A part of a tag; a zero byte ends it. -/
def tagText (d : Dialect) (cs : List Char) : String :=
  String.ofList (if d.bytewiseTags then cs.takeWhile (· != '\x00') else cs)

/-- An exclamation mark, a name, and another exclamation mark if there is one. -/
def handle? (c : Cursor) : Option (List Char × Cursor) :=
  if c.char? == some '!' then
    let name := (c.skip 1).run isNameChar
    let after := c.skip (name.length + 1)
    if after.char? == some '!' then some ('!' :: (name ++ ['!']), after.skip 1)
    else some ('!' :: name, after)
  else none

/-- The tag in angle brackets. -/
def angledTag (d : Dialect) (c : Cursor) : Except Fault (Token × Cursor) := do
  let (suffix, c) ← tagEnd d (isTagChar d) [] (c.skip 2)
  if (d.bytewiseTags && suffix.isEmpty) || c.char? != some '>' then .error .tag
  else .ok (.tag "" (tagText d suffix), c.skip 1)

/-- The tag that is written with a handle, or with a lone exclamation mark instead of one. -/
def shortTag (d : Dialect) (c : Cursor) : Except Fault (Token × Cursor) :=
  match handle? c with
  | none => .error .tag
  | some (handle, after) =>
    if 1 < handle.length && handle.getLast? == some '!' then do
      let (suffix, after) ← tagEnd d (isShortTagChar d) [] after
      if suffix.isEmpty then .error .tag
      else .ok (.tag (String.ofList handle) (tagText d suffix), after)
    else do
      let (suffix, after) ← tagEnd d (isShortTagChar d) (handle.drop 1) after
      let suffix := tagText d suffix
      .ok (if suffix = "" then .tag "" "!" else .tag "!" suffix, after)

/-- Whether a tag may be followed by what stands after it. -/
def endsTag (d : Dialect) (inBrackets : Bool) (next : Option Char) : Bool :=
  d.endsWord next ||
    (inBrackets && next.any fun c => if d.bytewiseTags then c == ',' else isBracketing c)

/-- The tag that starts here. -/
def tag (d : Dialect) (inBrackets : Bool) (c : Cursor) : Except Fault (Token × Cursor) := do
  let (token, after) ← if c.ahead? 1 == some '<' then angledTag d c else shortTag d c
  if endsTag d inBrackets after.char? then .ok (token, after) else .error .tag

/-! ### Directives -/

/-- A number of at most nine digits. -/
def versionNumber? (c : Cursor) : Option (Nat × Cursor) := do
  let digits := c.run Char.isDigit
  let n ← Decimal.natural? 10 digits
  if digits.length ≤ 9 then some (n, c.skip digits.length) else none

/-- The version after the name of its directive. -/
def version? (c : Cursor) : Option (Token × Cursor) := do
  let (major, c) ← versionNumber? (c.skipRun isBlank)
  if c.char? == some '.' then
    let (minor, c) ← versionNumber? (c.skip 1)
    some (.version major minor, c)
  else none

/-- What a handle stands for; only where tags are bytes it may start with a bracket or a comma. -/
def handleLead (d : Dialect) (c : Cursor) : Except Fault (List Char × Cursor) :=
  let startsTag := c.char?.any fun x =>
    d.bytewiseTags || x == '!' || x == '%' || isShortTagChar d x
  if startsTag then do
    let (lead, after) ← tagEnd d (isTagChar d) [] c
    if lead.isEmpty || !d.endsWord after.char? then .error .directive else .ok (lead, after)
  else .error .directive

/-- The handle and what it stands for, after the name of their directive. -/
def handleRule (d : Dialect) (c : Cursor) : Except Fault (Token × Cursor) :=
  match handle? (c.skipRun isBlank) with
  | none => .error .directive
  | some (name, c) =>
    let closed := name.length = 1 || name.getLast? == some '!'
    if !closed || (d.strictDirectives && !c.char?.any isBlank) then .error .directive
    else do
      let (lead, c) ← handleLead d (c.skipRun isBlank)
      .ok (.handle (String.ofList name) (tagText d lead), c)

/-- The value of the directive with a given name. -/
def directiveValue (d : Dialect) (name : String) (c : Cursor) : Except Fault (Token × Cursor) :=
  if name = "YAML" then (version? c).elim (.error .directive) .ok
  else if name = "TAG" then handleRule d c
  else if d.strictDirectives then .error .directive
  else .ok (.handle "" "", c.endOfLine d)

/-- The directive that starts here. -/
def directive (d : Dialect) (c : Cursor) : Except Fault (Token × Cursor) := do
  let c := c.skip 1
  let name := c.run isNameChar
  let c := c.skip name.length
  if name.isEmpty || !d.endsWord c.char? then .error .directive
  else do
    let (token, c) ← directiveValue d (String.ofList name) c
    let c ← c.skipTail d
    if d.endsLine c.char? then .ok (token, c.nextLine.2) else .error .directive

end QuotaShare.Yaml.Name
