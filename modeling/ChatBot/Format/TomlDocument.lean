import ChatBot.Format.TomlSyntax

/-!
# TOML documents

A TOML document read into a tree of items that remember where they were written. Tables
are built the way the format prescribes:

* a key-value line adds its key to the table of the last header (or to the root), creating
  *dotted* tables for a dotted key;
* `[a.b]` starts a table, creating *implicit* tables for the leading keys; an implicit table
  may later be started by its own header, but no table may be started twice;
* `[[a.b]]` appends a new table to an array of tables;
* a dotted key may not reach into a value that is not a table, nor into a table started by
  a header, and no key may be given twice.

The table being filled is kept apart from the root and put in place when the next header
(or the end of the document) comes, so a failure of those rules is reported at the header or
line that breaks them.
-/

namespace ChatBot

namespace TomlFormat

/-- A key as written: its name and where it stands. -/
structure Key where
  name : String
  span : Span
deriving Inhabited

/-- How a table came to be and where it was written. -/
structure Origin where
  span : Option Span := none
  /-- Created on the way to a deeper table, not by a header of its own. -/
  implicit : Bool := false
  /-- Created by a dotted key. -/
  dotted : Bool := false
  /-- Written inline, as `{ … }`; such a table is a value. -/
  inline : Bool := false
deriving Inhabited

/-- The origin of a table started by a header written at `s`. -/
def Origin.headed (s : Span) : Origin := { span := some s }

/-- A node of a TOML document. -/
inductive Item where
  | text (s : String) (span : Span)
  | integer (i : Int) (span : Span)
  | float (x : Float64) (span : Span)
  | boolean (b : Bool) (span : Span)
  | datetime (span : Span)
  | array (items : List Item) (span : Span)
  | table (entries : List (Key × Item)) (origin : Origin)
  | tables (items : List Item) (span : Option Span)
deriving Inhabited

namespace Item

/-- Where the item was written, when it was. -/
def span? : Item → Option Span
  | text _ s | integer _ s | float _ s | boolean _ s | datetime s | array _ s => some s
  | table _ o => o.span
  | tables _ s => s

/-- How the rules name the type of a value. -/
def typeName : Item → String
  | text .. => "string"
  | integer .. => "integer"
  | float .. => "float"
  | boolean .. => "boolean"
  | datetime .. => "datetime"
  | array .. => "array"
  | table _ o => if o.inline then "inline table" else "table"
  | tables .. => "array of tables"

/-- An empty table of the given origin. -/
def empty (origin : Origin) : Item := .table [] origin

end Item

/-- A broken table rule. -/
inductive Clash where
  /-- A key given twice; `table` is the path of the table it was given in, when known. -/
  | duplicate (key : String) (table : Option (List String))
  /-- A dotted key that reaches into a value that is not a table. -/
  | extendsValue (path : List String) (actual : String)
  | tooDeep
deriving Inhabited

/-- The words for a broken table rule. -/
def Clash.text : Clash → String
  | .duplicate key none => "duplicate key \x60" ++ key ++ "\x60"
  | .duplicate key (some []) => "duplicate key \x60" ++ key ++ "\x60 in document root"
  | .duplicate key (some t) =>
    "duplicate key \x60" ++ key ++ "\x60 in table \x60" ++ ".".intercalate t ++ "\x60"
  | .extendsValue path actual =>
    "dotted key \x60" ++ ".".intercalate path ++ "\x60 attempted to extend non-table type ("
      ++ actual ++ ")"
  | .tooDeep => "recursion limit exceeded"

/-- The names of keys. -/
def names (path : List Key) : List String := path.map (·.name)

/-- The key written in `raw` at `k`'s place, quotes included. -/
def rawKey (raw : ByteArray) (k : Key) : String :=
  textOf (raw.extract k.span.start k.span.stop)

/-- Replaces the entry called `name`, or appends `(k, v)` when there is none. -/
def setEntry (entries : List (Key × Item)) (k : Key) (v : Item) : List (Key × Item) :=
  if entries.any (·.1.name == k.name) then
    entries.map fun e => if e.1.name == k.name then (e.1, v) else e
  else entries ++ [(k, v)]

/-- Walks down `path` from a table, creating implicit tables (dotted ones when `dotted`)
for missing keys and entering the last table of an array of tables, and applies `edit` to
the table reached. On the way, a value that is not a table is an error, and so is a table
that is not implicit when the walk is for a dotted key. -/
def descend {β : Type} (dotted : Bool) (whole : List Key)
    (edit : List (Key × Item) → Origin → Except Clash (Item × β)) :
    Item → List Key → Except Clash (Item × β)
  | .table entries origin, [] => edit entries origin
  | .tables items span, path =>
    match _hr : items.reverse with
    | last :: before => do
      let (last, b) ← descend dotted whole edit last path
      pure (.tables (before.reverse ++ [last]) span, b)
    | [] => .error (.duplicate "" none)
  | .table entries origin, k :: rest => do
    let here := whole.take (whole.length - rest.length)
    let child := (entries.find? (·.1.name == k.name)).map (·.2)
    let child := child.getD (.empty { implicit := true, dotted := dotted })
    match child with
    | .table _ o =>
      if o.inline then throw (.extendsValue (names here) child.typeName)
      if dotted && !o.implicit then throw (.duplicate k.name none)
    | .tables .. => pure ()
    | _ => throw (.extendsValue (names here) child.typeName)
    let (child, b) ← descend dotted whole edit child rest
    let key := ((entries.find? (·.1.name == k.name)).map (·.1)).getD k
    pure (.table (setEntry entries key child) origin, b)
  | item, _ :: _ => .error (.extendsValue [] item.typeName)
  | item, [] => .error (.extendsValue [] item.typeName)
termination_by item path => (path.length, sizeOf item)
decreasing_by
  · have mem : last ∈ items := List.mem_reverse.mp (_hr ▸ List.mem_cons_self)
    have := List.sizeOf_lt_of_mem mem
    apply Prod.Lex.right
    simp only [Item.tables.sizeOf_spec]
    omega
  · apply Prod.Lex.left
    simp

/-- The reading state: the root, the table being filled and its header path, and whether
that header appends to an array of tables. -/
structure Builder where
  root : Item := .empty {}
  current : Item := .empty {}
  path : List Key := []
  isArray : Bool := false
deriving Inhabited

namespace Builder

/-- Puts the table being filled in place under its header path. -/
def finish (raw : ByteArray) (b : Builder) : Except Clash Builder := do
  match b.path.getLast? with
  | none => pure { b with root := b.current, current := .empty {}, path := [], isArray := false }
  | some key =>
    let parent := b.path.dropLast
    let current := b.current
    let (root, _) ← descend false parent (fun entries origin =>
      match (entries.find? (·.1.name == key.name)).map (·.2), b.isArray with
      | none, true =>
        pure (.table (entries ++ [(key, .tables [current] current.span?)]) origin, ())
      | some (.tables items _), true =>
        let items := items ++ [current]
        let span := match (items.head?.bind Item.span?), (items.getLast?.bind Item.span?) with
          | some first, some last => some { start := first.start, stop := last.stop }
          | _, _ => none
        pure (.table (setEntry entries key (.tables items span)) origin, ())
      | some (.table _ o), false =>
        if o.implicit && !o.inline then pure (.table (setEntry entries key current) origin, ())
        else throw (.duplicate (rawKey raw key) (some (names parent)))
      | none, false => pure (.table (entries ++ [(key, current)]) origin, ())
      | some _, _ => throw (.duplicate (rawKey raw key) (some (names parent)))) b.root parent
    pure { b with root := root, current := .empty {}, path := [], isArray := false }

/-- Starts the table of header `[path]` written at `span`; an implicit table of that path
is taken over with its entries, any other entry there is a duplicate. -/
def startTable (raw : ByteArray) (b : Builder) (path : List Key) (span : Span) :
    Except Clash Builder := do
  let b ← b.finish raw
  let key := path.getLastD default
  let parent := path.dropLast
  let (root, taken) ← descend false parent (fun entries origin =>
    match entries.find? (·.1.name == key.name) with
    | none => pure (.table entries origin, ([] : List (Key × Item)))
    | some (_, .table kept o) =>
      if o.implicit && !o.dotted && !o.inline then
        pure (.table (entries.filter (·.1.name != key.name)) origin, kept)
      else throw (.duplicate (rawKey raw key) (some (names parent)))
    | some _ => throw (.duplicate (rawKey raw key) (some (names parent)))) b.root parent
  let current : Item := .table taken (Origin.headed span)
  pure { root := root, current := current, path := path, isArray := false }

/-- Starts a new table of the array of tables `[[path]]` written at `span`. -/
def startArray (raw : ByteArray) (b : Builder) (path : List Key) (span : Span) :
    Except Clash Builder := do
  let b ← b.finish raw
  let key := path.getLastD default
  let parent := path.dropLast
  let (root, _) ← descend false parent (fun entries origin =>
    match (entries.find? (·.1.name == key.name)).map (·.2) with
    | none => pure (.table (entries ++ [(key, .tables [] none)]) origin, ())
    | some (.tables ..) => pure (.table entries origin, ())
    | some _ => throw (.duplicate (rawKey raw key) (some (names parent)))) b.root parent
  let current : Item := .table [] (Origin.headed span)
  pure { root := root, current := current, path := path, isArray := true }

/-- Adds `path.key = value` to the table being filled, whose span then reaches to the end
of the value. -/
def addValue (b : Builder) (path : List Key) (key : Key) (value : Item) :
    Except Clash Builder := do
  let current := match b.current, value.span? with
    | .table entries o, some v =>
      match o.span with
      | some s => .table entries { o with span := some { start := s.start, stop := v.stop } }
      | none => .table entries o
    | c, _ => c
  let (current, _) ← descend true path (fun entries origin =>
    if origin.dotted == path.isEmpty then throw (.duplicate key.name none)
    else if entries.any (·.1.name == key.name) then
      throw (.duplicate key.name (some (names b.path)))
    else pure (.table (entries ++ [(key, value)]) origin, ())) current path
  pure { b with current := current }

end Builder

/-! ## Reading -/

/-- A key that is a single name: a basic or literal string, or a bare key. None (nothing
taken) when no key starts here. -/
def simpleKey : Scan (Option Key) := do
  let start ← get
  match ← peek with
  | some 34 =>
    let name ← basicString
    pure (some ⟨name, ⟨start, ← get⟩⟩)
  | some 39 =>
    let name ← literalString
    pure (some ⟨name, ⟨start, ← get⟩⟩)
  | _ =>
    let run ← takeRun isBareKeyByte
    if run.size == 0 then pure none else pure (some ⟨textOf run, ⟨start, ← get⟩⟩)

/-- The further parts of a dotted key, each after a dot. -/
def keyParts : Nat → List Key → Scan (List Key)
  | 0, acc => pure acc
  | fuel + 1, acc => do
    if (← peek) != some 46 then return acc
    let save ← get
    advance 1
    blanks
    match ← simpleKey with
    | none => set save; pure acc
    | some k => do blanks; keyParts fuel (acc ++ [k])

/-- How many parts a dotted key may have, and how deeply arrays and inline tables may
nest: each part or level is one more step down when the key is put in place or the value
is read. -/
def depthLimit : Nat := 80

/-- A key, possibly dotted, with blanks around its parts. A key of `depthLimit` parts or
more is a soft failure where the key starts. -/
def dottedKey : Scan (List Key) := do
  let start ← get
  let path ← noting (do
    blanks
    match ← simpleKey with
    | none => soft
    | some k =>
      blanks
      keyParts ((← read).size) [k]) [.label "key"]
  if depthLimit ≤ path.length then
    set start
    soft [.cause (Clash.tooDeep).text]
  pure path

/-- The items read by `p` separated by commas: after the first, each comma must be
followed by another item, else the comma is left. -/
def separated (p : Scan (Option α)) : Nat → List α → Scan (List α)
  | 0, acc => pure acc
  | fuel + 1, acc => do
    if (← peek) != some 44 then return acc
    let save ← get
    advance 1
    match ← p with
    | none => set save; pure acc
    | some x => separated p fuel (acc ++ [x])

/-- The notes of a bare word where a value was expected. -/
def stringNotes : List Note := [.label "string", .expect (.char '"'), .expect (.char '\'')]

mutual

/-- A value: string, number, date, boolean, array or inline table. `depth` is one more than
the number of arrays and inline tables that may still open; opening one when none may is a
hard failure before its bracket. -/
def value : Nat → Scan Item
  | 0 => soft
  | depth + 1 => do
    let start ← get
    let item ← match ← peek with
    | some 34 | some 39 => do
      let s ← stringValue
      pure (Item.text s ⟨start, ← get⟩)
    | some 91 => if depth == 0 then hard [.cause (Clash.tooDeep).text] else array depth start
    | some 123 =>
      if depth == 0 then hard [.cause (Clash.tooDeep).text] else inlineTable depth start
    | some 116 => noting (do
        if ← ahead "true" then advance 4 else hard
        pure (Item.boolean true ⟨start, ← get⟩)) stringNotes
    | some 102 => noting (do
        if ← ahead "false" then advance 5 else hard
        pure (Item.boolean false ⟨start, ← get⟩)) stringNotes
    | some 105 => noting (do
        if ← ahead "inf" then advance 3 else soft
        pure (Item.float (.infinite false) ⟨start, ← get⟩)) stringNotes
    | some 110 => noting (do
        if ← ahead "nan" then advance 3 else soft
        pure (Item.float .nan ⟨start, ← get⟩)) stringNotes
    | some 95 => noting (do
        let i ← integerValue
        pure (Item.integer i ⟨start, ← get⟩)) [.expect (.description "leading digit")]
    | some 46 => noting (do
        let x ← floatValue
        pure (Item.float x ⟨start, ← get⟩)) [.expect (.description "leading digit")]
    | some c =>
      if c == 43 || c == 45 || isDigit c then do
        match ← attempt datetimeValue with
        | some () => pure (Item.datetime ⟨start, ← get⟩)
        | none =>
          match ← attempt floatValue with
          | some x => pure (Item.float x ⟨start, ← get⟩)
          | none =>
            let i ← integerValue
            pure (Item.integer i ⟨start, ← get⟩)
      else soft stringNotes
    | none => soft
    pure item

/-- An element of an array, with blank lines and comments around it; none (nothing
taken) when it fails softly. -/
def arrayElement : Nat → Scan (Option Item)
  | depth => attempt (do
    blankLines ((← read).size)
    let v ← value depth
    blankLines ((← read).size)
    pure v)

/-- An array `[ … ]`; the bracket is ahead. -/
def array : Nat → Nat → Scan Item
  | depth, start => do
    advance 1
    let items ← match ← arrayElement depth with
      | none => pure []
      | some first => do
        let items ← separated (arrayElement depth) ((← read).size) [first]
        if (← peek) == some 44 then advance 1
        pure items
    firm (blankLines ((← read).size))
    if (← peek) == some 93 then advance 1
    else hard [.label "array", .expect (.char ']')]
    pure (.array items ⟨start, ← get⟩)

/-- A key-value pair inside an inline table; none (nothing taken) when no key starts. -/
def inlinePair : Nat → Scan (Option (List Key × Item))
  | depth => do
    match ← attempt dottedKey with
    | none => pure none
    | some path => firm (do
      if (← peek) == some 61 then advance 1
      else hard [.expect (.char '.'), .expect (.char '=')]
      blanks
      let v ← value depth
      blanks
      pure (some (path, v)))

/-- An inline table `{ … }`; the brace is ahead. -/
def inlineTable : Nat → Nat → Scan Item
  | depth, start => do
    advance 1
    let inner ← get
    let pairs ← match ← inlinePair depth with
      | none => pure []
      | some first => separated (inlinePair depth) ((← read).size) [first]
    blanks
    let built := pairs.foldlM (fun (t : Item) (path, v) => do
      let key := path.getLastD default
      let path := path.dropLast
      let (t, _) ← descend true path (fun entries origin =>
        if origin.dotted == path.isEmpty then throw (Clash.duplicate key.name none)
        else if entries.any (·.1.name == key.name) then throw (Clash.duplicate key.name none)
        else pure (.table (entries ++ [(key, v)]) origin, ())) t path
      pure t) (Item.empty { inline := true })
    let entries ← match built with
      | .ok (.table entries _) => pure entries
      | .ok _ => pure []
      | .error c => hardAt inner [.cause c.text]
    if (← peek) == some 125 then advance 1
    else hard [.label "inline table", .expect (.char '}')]
    pure (.table entries { span := some ⟨start, ← get⟩, inline := true })

end

/-- A key-value line: `key = value`, then the end of the line. -/
def keyValue : Scan (List Key × Item) := do
  let path ← dottedKey
  firm (do
    if (← peek) == some 61 then advance 1
    else hard [.expect (.char '.'), .expect (.char '=')]
    blanks
    let v ← value depthLimit
    lineTrailing
    pure (path, v))

/-- A table header `[key]` or `[[key]]` and the end of its line. -/
def header (raw : ByteArray) (b : Builder) : Scan Builder := noting (do
  let start ← get
  -- the kind of header is told by its first two bytes, which must be there
  if (← peekAt 1).isNone then hard
  let isArray ← ahead "[["
  advance (if isArray then 2 else 1)
  let path ← firm dottedKey
  let close := if isArray then "]]" else "]"
  if ← ahead close then advance close.length
  else hard [.expect (.char '.'), .expect (.literal close)]
  let span : Span := ⟨start, ← get⟩
  lineTrailing
  let started := if isArray then b.startArray raw path span else b.startTable raw path span
  match started with
  | .ok b => pure b
  | .error c => hardAt start [.cause c.text]) [.label "table header"]

/-- The lines of a document from here on. -/
def lines (raw : ByteArray) : Nat → Builder → Scan Builder
  | 0, b => pure b
  | fuel + 1, b => do
    match ← peek with
    | none => pure b
    | some 35 =>
      comment
      if !(← lineEnd) then hard
      blanks
      lines raw fuel b
    | some 91 =>
      let b ← header raw b
      blanks
      lines raw fuel b
    | some 10 =>
      advance 1
      blanks
      lines raw fuel b
    | some 13 =>
      if ← newline then
        blanks
        lines raw fuel b
      else pure b
    | some _ =>
      let start ← get
      let (path, v) ← firm keyValue
      match b.addValue path.dropLast (path.getLastD default) v with
      | .ok b => do blanks; lines raw fuel b
      | .error c => hardAt start [.cause c.text]

/-- A whole document: an optional byte order mark, then lines to the end. Putting the last
table in place may still break a table rule; that failure has no place in the text. -/
def document : Scan (Except Clash Item) := do
  let raw ← read
  if ← ahead "\uFEFF" then advance 3
  blanks
  let b ← lines raw (raw.size + 1) {}
  if (← peek).isSome then soft
  pure ((b.finish raw).map (·.root))

end TomlFormat

end ChatBot
