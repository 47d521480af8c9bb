import QuotaShare.Decimal.Numeral
import QuotaShare.Yaml.Cursor

/-!
# Quoted texts

Texts between single or double quotes.  Between single quotes a quote is written twice; between
double quotes a backslash starts an escape.
-/

namespace QuotaShare.Yaml

/-- The character that an escape of a single character stands for. -/
def escaped? (c : Char) : Option Char :=
  match c with
  | '0' => some '\x00'
  | 'a' => some '\x07'
  | 'b' => some '\x08'
  | 't' => some '\t'
  | '\t' => some '\t'
  | 'n' => some '\n'
  | 'v' => some '\x0b'
  | 'f' => some '\x0c'
  | 'r' => some '\r'
  | 'e' => some '\x1b'
  | ' ' => some ' '
  | '"' => some '"'
  | '/' => some '/'
  | '\\' => some '\\'
  | 'N' => some '\u0085'
  | '_' => some '\u00a0'
  | 'L' => some '\u2028'
  | 'P' => some '\u2029'
  | _ => none

/-- The number of digits that follow the letter of an escape by code point. -/
def codeLength? (c : Char) : Option Nat :=
  match c with
  | 'x' => some 2
  | 'u' => some 4
  | 'U' => some 8
  | _ => none

/-- The character with a code point. -/
def charOfCode? (n : Nat) : Option Char :=
  if n.isValidChar then some (Char.ofNat n) else none

/-- The character after a backslash stands for, and the place after the escape. -/
def escape? (c : Cursor) : Option (Char × Cursor) := do
  let letter ← c.char?
  match codeLength? letter with
  | some n =>
    let digits := (c.rest.drop 1).take n
    if digits.length = n then
      let char ← charOfCode? (← Decimal.natural? 16 digits)
      some (char, c.skip (n + 1))
    else none
  | none => (escaped? letter).map fun char => (char, c.skip 1)

/-- The gap in a quoted text of which later lines must not start with a tab left of a column. -/
def quotedGap (d : Dialect) (column : Int) (later : Bool) (c : Cursor) : Except Fault Gap :=
  Gap.read d (if d.freeLines then 0 else column) (fun _ => .error .tab) later c

/-- The text up to the closing quote, which is put in front of `done` in reverse order.

No line of it may start left of the given column, but the quote alone may follow an escaped end of
line anywhere. -/
def quotedEnd (d : Dialect) (double : Bool) (column : Int) :
    Nat → List Char → Cursor → Except Fault (List Char × Cursor)
  | 0, _, _ => .error .unclosed
  | fuel + 1, done, c =>
    if c.isAnyMarker d then .error .unclosed
    else match c.rest with
    | [] => .error .unclosed
    | x :: rest =>
      if !d.freeLines && (c.column : Int) < column then .error .indentation
      else if x == (if double then '"' else '\'') then
        if !double && rest.head? == some '\'' then
          quotedEnd d double column fuel ('\'' :: done) (c.skip 2)
        else .ok (done, c.skip 1)
      else if double && x == '\\' then
        if rest.head?.any d.isBreak then
          let next := (c.skip 1).nextLine.2
          if !d.freeLines && next.char? == some '"' then .ok (done, next.skip 1)
          else do
            let g ← quotedGap d column true next
            quotedEnd d double column fuel (g.breaks.reverse ++ done) g.after
        else match escape? (c.skip 1) with
        | some (char, after) => quotedEnd d double column fuel (char :: done) after
        | none => .error .escape
      else if isBlank x || d.isBreak x then do
        let g ← quotedGap d column false c
        quotedEnd d double column fuel (g.folded.reverse ++ done) g.after
      else quotedEnd d double column fuel (x :: done) (c.skip 1)

/-- Whether a text that ended at a place, in the line in which it started or not, may be followed by
what stands there. -/
def endsQuoted (d : Dialect) (inBrackets sameLine : Bool) (next : Option Char) : Bool :=
  d.openTails || d.endsLine next ||
    (inBrackets && (next == some ',' || next == some ']' || next == some '\x7d')) ||
    ((inBrackets || sameLine) && next == some ':')

/-- The text whose opening quote stands here, and the place after it and what may follow it. -/
def quotedText (d : Dialect) (inBrackets double : Bool) (column : Int) (c : Cursor) :
    Except Fault (String × Cursor) := do
  let (done, after) ← quotedEnd d double column (c.rest.length + 1) [] (c.skip 1)
  let after ← after.skipTail d
  if endsQuoted d inBrackets (after.line == c.line) after.char? then
    .ok (String.ofList done.reverse, after)
  else .error .trailing

end QuotaShare.Yaml
