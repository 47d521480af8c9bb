import QuotaShare.Decimal.Numeral
import QuotaShare.Yaml.Cursor

/-!
# Block texts

Texts that are marked only by their indentation.  The lines are kept as they are or folded, and the
ends of lines after the last one are kept, cut to a single one, or dropped.
-/

namespace QuotaShare.Yaml

/-- What becomes of the ends of lines at the end of a block text. -/
inductive Chomping where
  | strip
  | clip
  | keep
  deriving DecidableEq, Repr

namespace Block

/-- The treatment of the end that a character asks for. -/
def chomping? (c : Option Char) : Option Chomping :=
  match c with
  | some '+' => some .keep
  | some '-' => some .strip
  | _ => none

/-- The indentation that a character asks for. -/
def increment? (c : Option Char) : Option Nat :=
  c.bind fun x => if x.isDigit then Decimal.digit? x else none

/-- The treatment of the end, the indentation, and the place after both, in either order. -/
def header (c : Cursor) : Chomping × Option Nat × Cursor :=
  match chomping? c.char? with
  | some chomping =>
    let c := c.skip 1
    match increment? c.char? with
    | some n => (chomping, some n, c.skip 1)
    | none => (chomping, none, c)
  | none =>
    match increment? c.char? with
    | some n =>
      let c := c.skip 1
      match chomping? c.char? with
      | some chomping => (chomping, some n, c.skip 1)
      | none => (.clip, some n, c)
    | none => (.clip, none, c)

/-- The empty lines at a place, and the greatest column that was reached.

Indentation is read up to a given column, or without a bound when there is none. -/
def emptyLines (d : Dialect) (indent : Option Nat) :
    Nat → List Char → Nat → Cursor → Except Fault (List Char × Nat × Cursor)
  | 0, breaks, widest, c => .ok (breaks, widest, c)
  | fuel + 1, breaks, widest, c =>
    let spaces := (c.run (· == ' ')).length
    let c := c.skip (match indent with
      | some n => min spaces (n - c.column)
      | none => spaces)
    let widest := max widest c.column
    let short := match indent with
      | some n => c.column < n
      | none => true
    if d.strictTabs && short && c.char? == some '\t' then .error .tab
    else match c.char? with
    | none => .ok (breaks, widest, c)
    | some x =>
      if d.isBreak x then
        let (b, c) := c.nextLine
        emptyLines d indent fuel (breaks ++ b) widest c
      else .ok (breaks, widest, c)

/-- A block text as far as it was read. -/
structure Progress where
  /-- The characters in reverse order. -/
  done : List Char
  /-- The end of the last line. -/
  lastBreak : List Char
  /-- The ends of the empty lines after it. -/
  trailing : List Char
  /-- Whether the last line started with a blank. -/
  indented : Bool
  after : Cursor

/-- The lines that are indented as the first one. -/
def lines (d : Dialect) (folds : Bool) (indent : Nat) : Nat → Progress → Except Fault Progress
  | 0, p => .ok p
  | fuel + 1, p =>
    match p.after.char? with
    | none => .ok p
    | some x =>
      if p.after.column ≠ indent || p.after.isMarker d '.' then .ok p
      else do
        let joins := folds && p.lastBreak == ['\n'] && !p.indented && !isBlank x
        let joint :=
          if joins then (if p.trailing.isEmpty then [' '] else p.trailing)
          else p.lastBreak ++ p.trailing
        let line := p.after.run fun y => !d.isBreak y
        let (lastBreak, c) := (p.after.skip line.length).nextLine
        let (trailing, _, after) ← emptyLines d (some indent) (c.rest.length + 1) [] 0 c
        lines d folds indent fuel
          ⟨line.reverse ++ (joint.reverse ++ p.done), lastBreak, trailing, isBlank x, after⟩

/-- The ends of lines at the end of a text: that of its last line and those of empty lines. -/
def tail (chomping : Chomping) (lastBreak trailing : List Char) : List Char :=
  match chomping with
  | .strip => []
  | .clip => lastBreak
  | .keep => lastBreak ++ trailing

/-- The end of the last line; the end of the whole text counts as one if the line was reached. -/
def lastBreak (d : Dialect) (indent : Nat) (p : Progress) : List Char :=
  if !d.openLastLine && p.after.char?.isNone && max indent 1 ≤ p.after.column then
    p.lastBreak ++ ['\n']
  else p.lastBreak

/-- The text without lines at the end of the whole text, given the end of its header. -/
def emptyText (chomping : Chomping) (headerBreak trailing : List Char) : List Char :=
  match chomping with
  | .keep => if trailing.isEmpty then headerBreak else trailing
  | _ => tail chomping headerBreak []

/-- The text whose indicator stands here, in a block of a given indentation. -/
def read (d : Dialect) (folds : Bool) (outer : Int) (c : Cursor) :
    Except Fault (String × Cursor) := do
  let (chomping, increment, c) := header (c.skip 1)
  let c ← c.skipTail d
  if increment = some 0 || !d.endsLine c.char? then .error .blockHeader
  else
    let (headerBreak, c) := c.nextLine
    if c.char? == some '\t' then .error .tab
    else
      let asked := increment.map fun n => (max outer 0).toNat + n
      let (trailing, widest, c) ← emptyLines d asked (c.rest.length + 1) [] 0 c
      let least := if d.indentedBlocks then max (outer + 1) 1 else outer + 1
      let indent := asked.getD (max widest least.toNat)
      if !d.openLastLine && c.char?.isNone then
        .ok (String.ofList (emptyText chomping headerBreak trailing), c)
      else if !d.freeLines && outer < c.column && c.column < indent then .error .indentation
      else
        let p ← lines d folds indent (c.rest.length + 1) ⟨[], [], trailing, false, c⟩
        let ends := tail chomping (lastBreak d indent p) p.trailing
        .ok (String.ofList (p.done.reverse ++ ends), p.after)

end Block

end QuotaShare.Yaml
