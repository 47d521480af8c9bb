import QuotaShare.Yaml.Node
import QuotaShare.Yaml.Token.Lexer

/-!
# Reading of YAML

The documents that the tokens of a text spell out.
-/

namespace QuotaShare.Yaml

/-- The handles of tags in a document, with what they stand for. -/
abbrev Handles := List (String × String)

/-- What the reading of the nodes of a document depends on. -/
structure Terms where
  handles : Handles
  /-- Whether a value needs a key, which may be empty, in front of it. -/
  keyedValues : Bool

namespace Node

/-- Whether the next token is one of some kind; there is none at the end of the text. -/
def next (p : Token → Bool) (ts : List Token) : Bool :=
  ts.head?.any p

/-- The tag with a handle and a suffix; without a handle it is the suffix alone. -/
def tagOf (handles : Handles) (handle suffix : String) : Except Fault Tag :=
  if handle = "" then .ok ⟨"", suffix⟩
  else match handles.lookup handle with
  | some lead => .ok ⟨lead, suffix⟩
  | none => .error .tag

/-- The name and the tag in front of a node, in either order. -/
def properties (handles : Handles) (ts : List Token) :
    Except Fault (Option String × Option Tag × List Token) :=
  match ts with
  | .anchor name :: .tag handle suffix :: ts => do
    .ok (some name, some (← tagOf handles handle suffix), ts)
  | .anchor name :: ts => .ok (some name, none, ts)
  | .tag handle suffix :: .anchor name :: ts => do
    .ok (some name, some (← tagOf handles handle suffix), ts)
  | .tag handle suffix :: ts => do
    .ok (none, some (← tagOf handles handle suffix), ts)
  | ts => .ok (none, none, ts)

/-- The tokens before which an item of a block without own indentation is left out. -/
def endsBlockNode (t : Token) : Bool :=
  t == .key || t == .value || t == .blockEnd

/-- What separates the items of a list between brackets. -/
def separator (first : Bool) (ts : List Token) : Except Fault (List Token) :=
  if first then .ok ts
  else match ts with
  | .comma :: ts => .ok ts
  | _ => .error .missing

mutual

/-- The node at the front of the tokens.

Blocks are read where `block` holds, and items without indentation of their own where `loose`
holds. -/
def read (terms : Terms) (block loose : Bool) :
    Nat → List Token → Except Fault (Node String × List Token)
  | 0, _ => .error .missing
  | fuel + 1, ts => do
    match ts with
    | .alias name :: ts => .ok (.alias name, ts)
    | ts =>
      let (name, tag, ts) ← properties terms.handles ts
      match ts, block, loose with
      | .text style s :: ts, _, _ => .ok (.text name tag style s, ts)
      | .openList :: ts, _, _ =>
        let (items, ts) ← listItems terms true fuel ts
        .ok (.list name tag items, ts)
      | .openMap :: ts, _, _ =>
        let (entries, ts) ← mapEntries terms true fuel ts
        .ok (.map name tag entries, ts)
      | .item :: _, _, true =>
        let (items, ts) ← looseItems terms fuel ts
        .ok (.list name tag items, ts)
      | .blockList :: ts, true, _ =>
        let (items, ts) ← blockItems terms fuel ts
        .ok (.list name tag items, ts)
      | .blockMap :: ts, true, _ =>
        let (entries, ts) ← blockEntries terms fuel ts
        .ok (.map name tag entries, ts)
      | ts, _, _ =>
        if name.isSome || tag.isSome then .ok (.text name tag .plain "", ts)
        else .error .missing

/-- The node at the front, or an empty one before a token of some kind. -/
def readUnless (terms : Terms) (block loose : Bool) (p : Token → Bool) :
    Nat → List Token → Except Fault (Node String × List Token)
  | 0, _ => .error .missing
  | fuel + 1, ts => if next p ts then .ok (empty, ts) else read terms block loose fuel ts

/-- The value at the front, or an empty one where no value starts. -/
def readValue (terms : Terms) (block : Bool) (p : Token → Bool) :
    Nat → List Token → Except Fault (Node String × List Token)
  | 0, _ => .error .missing
  | fuel + 1, ts =>
    match ts with
    | .value :: ts => readUnless terms block block p fuel ts
    | ts => .ok (empty, ts)

/-- The items of a block list up to its end. -/
def blockItems (terms : Terms) :
    Nat → List Token → Except Fault (List (Node String) × List Token)
  | 0, _ => .error .missing
  | fuel + 1, ts =>
    match ts with
    | .item :: ts => do
      let (item, ts) ←
        readUnless terms true false (fun t => t == .item || t == .blockEnd) fuel ts
      let (items, ts) ← blockItems terms fuel ts
      .ok (item :: items, ts)
    | .blockEnd :: ts => .ok ([], ts)
    | _ => .error .missing

/-- The items of a list in the column of the key that it belongs to. -/
def looseItems (terms : Terms) :
    Nat → List Token → Except Fault (List (Node String) × List Token)
  | 0, _ => .error .missing
  | fuel + 1, ts =>
    match ts with
    | .item :: ts => do
      let (item, ts) ←
        readUnless terms true false (fun t => t == .item || endsBlockNode t) fuel ts
      let (items, ts) ← looseItems terms fuel ts
      .ok (item :: items, ts)
    | ts => .ok ([], ts)

/-- The entries of a block map up to its end. -/
def blockEntries (terms : Terms) :
    Nat → List Token → Except Fault (List (Node String × Node String) × List Token)
  | 0, _ => .error .missing
  | fuel + 1, ts =>
    match ts with
    | .key :: ts => do
      let (key, ts) ← readUnless terms true true endsBlockNode fuel ts
      let (value, ts) ← readValue terms true endsBlockNode fuel ts
      let (entries, ts) ← blockEntries terms fuel ts
      .ok ((key, value) :: entries, ts)
    | .value :: _ =>
      if terms.keyedValues then .error .missing
      else do
        let (value, ts) ← readValue terms true endsBlockNode fuel ts
        let (entries, ts) ← blockEntries terms fuel ts
        .ok ((empty, value) :: entries, ts)
    | .blockEnd :: ts => .ok ([], ts)
    | _ => .error .missing

/-- A key and a value that are an item of a list by themselves.

A key that is left out takes the token after it along. -/
def readPair (terms : Terms) :
    Nat → List Token → Except Fault (Node String × List Token)
  | 0, _ => .error .missing
  | fuel + 1, ts => do
    let ends := fun t => t == .comma || t == .closeList
    let (key, ts) ←
      if next (fun t => t == .value || ends t) ts then .ok (empty, ts.drop 1)
      else read terms false false fuel ts
    let (value, ts) ← readValue terms false ends fuel ts
    .ok (.map none none [(key, value)], ts)

/-- The items of a list up to the closing bracket. -/
def listItems (terms : Terms) (first : Bool) :
    Nat → List Token → Except Fault (List (Node String) × List Token)
  | 0, _ => .error .missing
  | fuel + 1, ts =>
    match ts with
    | .closeList :: ts => .ok ([], ts)
    | ts => do
      match ← separator first ts with
      | .closeList :: ts => .ok ([], ts)
      | .key :: ts =>
        let (item, ts) ← readPair terms fuel ts
        let (items, ts) ← listItems terms false fuel ts
        .ok (item :: items, ts)
      | ts =>
        let (item, ts) ← read terms false false fuel ts
        let (items, ts) ← listItems terms false fuel ts
        .ok (item :: items, ts)

/-- The entries of a map up to the closing brace. -/
def mapEntries (terms : Terms) (first : Bool) :
    Nat → List Token → Except Fault (List (Node String × Node String) × List Token)
  | 0, _ => .error .missing
  | fuel + 1, ts =>
    match ts with
    | .closeMap :: ts => .ok ([], ts)
    | ts => do
      let ends := fun t => t == .comma || t == .closeMap
      match ← separator first ts with
      | .closeMap :: ts => .ok ([], ts)
      | .key :: ts =>
        let (key, ts) ← readUnless terms false false (fun t => t == .value || ends t) fuel ts
        let (value, ts) ← readValue terms false ends fuel ts
        let (entries, ts) ← mapEntries terms false fuel ts
        .ok ((key, value) :: entries, ts)
      | .value :: ts =>
        if terms.keyedValues then .error .missing
        else
          let (value, ts) ← readValue terms false ends fuel (.value :: ts)
          let (entries, ts) ← mapEntries terms false fuel ts
          .ok ((empty, value) :: entries, ts)
      | ts =>
        let (key, ts) ← read terms false false fuel ts
        let (entries, ts) ← mapEntries terms false fuel ts
        .ok ((key, empty) :: entries, ts)

end

end Node

/-! ### Documents -/

/-- The directives of a document as far as they were read. -/
structure Directives where
  versioned : Bool
  handles : Handles

namespace Directives

/-- The directives of a document that has none. -/
def none : Directives := ⟨false, []⟩

/-- What the nodes of a document are read with: its handles and those that need not be declared. -/
def terms (d : Dialect) (ds : Directives) : Terms where
  handles := ds.handles ++ [("!", "!"), ("!!", Tag.commonLead)]
  keyedValues := d.keyedValues

/-- The directives at the front of the tokens. -/
def read (d : Dialect) : Directives → List Token → Except Fault (Directives × List Token)
  | ds, .version major minor :: ts =>
    let isKnown := major = 1 && (minor = 1 || minor = 2)
    if ds.versioned || (d.strictDirectives && !isKnown) then .error .directive
    else read d ⟨true, if d.strictDirectives then ds.handles else []⟩ ts
  | ds, .handle name lead :: ts =>
    if !d.strictDirectives then read d ⟨ds.versioned, [(name, lead)]⟩ ts
    else if (ds.handles.lookup name).isSome then .error .directive
    else read d { ds with handles := ds.handles ++ [(name, lead)] } ts
  | ds, ts => .ok (ds, ts)

end Directives

namespace Document

/-- The tokens before which an announced document is empty. -/
def endsDocument : Token → Bool
  | .version .. | .handle .. | .documentStart | .documentEnd => true
  | _ => false

/-- The tokens that announce a document. -/
def announces : Token → Bool
  | .version .. | .handle .. | .documentStart => true
  | _ => false

/-- A number of calls that is enough for the given tokens; each token takes at most four. -/
def enough (ts : List Token) : Nat := 4 * ts.length + 4

/-- The document after its directives. -/
def announced (d : Dialect) (ts : List Token) : Except Fault (Node String × List Token) := do
  let (directives, ts) ← Directives.read d Directives.none ts
  match ts with
  | .documentStart :: ts =>
    if ts.isEmpty || Node.next endsDocument ts then .ok (Node.empty, ts)
    else Node.read (directives.terms d) true false (enough ts) ts
  | _ => .error .missing

/-- The documents that the tokens spell out; only the first need not be announced. -/
def readAll (d : Dialect) : Nat → Bool → List Token → Except Fault (List (Node String))
  | 0, _, _ => .ok []
  | fuel + 1, first, ts => do
    let ts := if first && d.startsFirst then ts else ts.dropWhile (· == .documentEnd)
    if ts.isEmpty then .ok []
    else
      let (node, ts) ←
        if first && !Node.next announces ts then
          Node.read (Directives.none.terms d) true false (enough ts) ts
        else announced d ts
      let ts := if Node.next (· == .documentEnd) ts then ts.drop 1 else ts
      let nodes ← readAll d fuel false ts
      .ok (node :: nodes)

/-- The documents of a text. -/
def ofText (d : Dialect) (s : String) : Except Fault (List (Node String)) := do
  let ts ← Token.ofText d s
  readAll d (ts.length + 1) true ts

end Document

end QuotaShare.Yaml
