import QuotaShare.Yaml.Cursor

/-!
# Plain texts

Texts without quotes.  A plain text ends at a comment, at a colon with a blank after it, and between
brackets also at a comma or a bracket; it goes on in the following lines if they are indented more
than the block around it.
-/

namespace QuotaShare.Yaml

/-- A plain text as far as it was read. -/
structure Plain where
  /-- The characters in reverse order. -/
  done : List Char
  /-- Whether the place after it is at the start of a line. -/
  newLine : Bool
  after : Cursor

namespace Plain

/-- Whether a colon between brackets cannot be part of a text for what follows it. -/
def bindsColon (d : Dialect) (next : Option Char) : Bool :=
  match next with
  | some c => isBracketing c || (d.strictIndicators && c == '?')
  | none => false

/-- Whether a text ends before a character, given the one after it. -/
def endsBefore (d : Dialect) (inBrackets : Bool) (c : Char) (next : Option Char) : Bool :=
  isBlank c || d.isBreak c || (inBrackets && isBracketing c) ||
    (c == ':' && (d.endsWord next || (inBrackets && bindsColon d next)))

/-- The length of the word at the front. -/
def wordLength (d : Dialect) (inBrackets : Bool) : List Char → Nat
  | [] => 0
  | c :: rest =>
    if endsBefore d inBrackets c rest.head? then 0 else wordLength d inBrackets rest + 1

/-- Whether a hyphen between brackets stands where a word should start. -/
def isLoneHyphen (d : Dialect) (inBrackets : Bool) (c : Cursor) : Bool :=
  !d.strictIndicators && inBrackets && c.char? == some '-' && (c.ahead? 1).any isBracketing

/-- The place after a tab that starts a line left of the text: nothing but a comment may follow it.

A line with a comment does not count as an empty one. -/
def skipTabbed (d : Dialect) (c : Cursor) : Except Fault Cursor := do
  let after ← c.skipTail d
  if d.strictTabs || !d.endsLine after.char? then .error .tab
  else .ok (if (c.skipRun isBlank).index == after.index then after else after.nextLine.2)

/-- The text continued with the words at its end. -/
def extend (d : Dialect) (inBrackets : Bool) (column : Int) :
    Nat → Plain → List Char → Except Fault Plain
  | 0, p, _ => .ok p
  | fuel + 1, p, joint =>
    let c := p.after
    if c.isAnyMarker d || c.char? == some '#' then .ok p
    else if isLoneHyphen d inBrackets c then .error (.indicator '-')
    else
      let n := wordLength d inBrackets c.rest
      let after := c.skip n
      let p : Plain :=
        if n = 0 then p
        else ⟨(c.rest.take n).reverse ++ (joint.reverse ++ p.done), false, after⟩
      if d.strictIndicators && inBrackets && after.char? == some ':' &&
          !d.endsWord (after.ahead? 1) then
        .error (.indicator ':')
      else do
        let g ← Gap.read d column (skipTabbed d) false after
        if g.after.index = after.index then .ok p
        else
          let next : Plain := { p with newLine := p.newLine || !g.breaks.isEmpty, after := g.after }
          if !inBrackets && (g.after.column : Int) < column then .ok next
          else extend d inBrackets column fuel next g.folded

/-- The text that starts here, whose lines have to reach a column. -/
def read (d : Dialect) (inBrackets : Bool) (column : Int) (c : Cursor) : Except Fault Plain :=
  if !d.freeLines && inBrackets && (c.column : Int) < column then .error .indentation
  else extend d inBrackets column (c.rest.length + 1) ⟨[], false, c⟩ []

/-- The characters of a text. -/
def text (p : Plain) : String :=
  String.ofList p.done.reverse

end Plain

end QuotaShare.Yaml
