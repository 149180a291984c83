import ChatBot.Format.TomlDocument
import ChatBot.Format.Shape

/-!
# Reading TOML against a shape

A TOML document is read into items (see `TomlDocument`), then the root table is read
against a shape. Every failure points at the text it is about: the offending byte for a
syntax error, the value (or, lacking one, the key) for a value of the wrong type, the table
for a missing field. The report names the line and column, shows the line, and underlines
the span with carets, as in

```
TOML parse error at line 1, column 10
  |
1 | owners = "x"
  |          ^^^
invalid type: string "x", expected a sequence
```

A failure about the root table has no place and is reported by its words alone.
-/

namespace ChatBot

namespace TomlFormat

/-- A failure to read a document: its words, and the span they are about. -/
structure Trouble where
  message : String
  span : Option Span
deriving Inhabited

/-- The line and column (both from zero) of byte `index`. The column counts characters, up
to and including the one that ends at `index`; when `index` is not the last byte of a
character it counts bytes instead. An index past the end is one column past the last byte. -/
def position (raw : ByteArray) (index : Nat) : Nat × Nat :=
  if raw.size = 0 then (0, index) else
  let safe := min index (raw.size - 1)
  let before := (raw.extract 0 safe).toList
  let lineStart := before.zipIdx.foldl (fun acc (c, i) => if c == 10 then i + 1 else acc) 0
  let line := before.count 10
  let column := match String.fromUTF8? (raw.extract lineStart (safe + 1)) with
    | some s => s.length - 1
    | none => safe - lineStart
  (line, column + (index - safe))

/-- The report of a failure in document `raw`. -/
def Trouble.render (raw : String) (t : Trouble) : String :=
  match t.span with
  | none => t.message ++ "\n"
  | some sp =>
    let (line, column) := position raw.toUTF8 sp.start
    let number := toString (line + 1)
    let margin := String.ofList (List.replicate (number.length + 1) ' ')
    let content := ((raw.splitOn "\n")[line]?).getD ""
    let width := min (sp.stop - sp.start) (content.utf8ByteSize - column)
    "TOML parse error at line " ++ number ++ ", column " ++ toString (column + 1) ++ "\n"
      ++ margin ++ "|\n"
      ++ number ++ " | " ++ content ++ "\n"
      ++ margin ++ "|" ++ String.ofList (List.replicate (column + 1) ' ') ++ "^"
      ++ String.ofList (List.replicate (width - 1) '^') ++ "\n"
      ++ t.message ++ "\n"

/-- What a failure calls an item that does not fit a shape. A date or time is a map, as it
reaches a reader as a one-entry table. -/
def Item.found : Item → Found
  | .text s _ => .text s
  | .integer i _ => .number (.signed i)
  | .float x _ => .number (.float x.quoted)
  | .boolean b _ => .flag b
  | .datetime _ => .map
  | .array .. | .tables .. => .list
  | .table .. => .map

/-- Gives a failure without a place the place `span`. -/
def placeAt (span : Option Span) : Except Trouble Datum → Except Trouble Datum
  | .error t => .error (if t.span.isNone then { t with span := span } else t)
  | ok => ok

/-- A failure about `item`. -/
def misfit (item : Item) (message : String) : Except Trouble Datum :=
  .error ⟨message, item.span?⟩

/-- An entry's value is smaller than the table holding it: what lets a walk of a table stop. -/
theorem sizeOf_lt_of_entry {k : Key} {v : Item} {entries : List (Key × Item)}
    (h : (k, v) ∈ entries) (o : Origin) : sizeOf v < sizeOf (Item.table entries o) := by
  have := List.sizeOf_lt_of_mem h
  simp only [Item.table.sizeOf_spec, Prod.mk.sizeOf_spec] at *
  omega

/-- The words for an array too short for a record of `count` fields, read by position. -/
def shortArray (name : String) (given count : Nat) : String :=
  "invalid length " ++ toString given ++ ", expected struct " ++ name ++ " with "
    ++ toString count ++ (if count = 1 then " element" else " elements")

/-- Reads an item against a shape. Strings, truth values and lists must be what the shape
asks for; an optional shape is always present; a record is read from a table (by name,
skipping fields it does not declare) or from an array (by position, ignoring items past
the last field); a choice is a string naming one of its names. -/
def readItem : Shape → Item → Except Trouble Datum
  | .text, .text s _ => .ok (.text s)
  | .flag, .boolean b _ => .ok (.flag b)
  | .optional inner, item => (readItem inner item).map .just
  | .list elem, .array items span =>
    placeAt (some span) (.list <$> items.attach.mapM fun ⟨v, _⟩ => placeAt v.span? (readItem elem v))
  | .list elem, .tables items span =>
    placeAt span (.list <$> items.attach.mapM fun ⟨v, _⟩ => placeAt v.span? (readItem elem v))
  | .record _ fields lenient, .table entries origin => do
    let found ← entries.attach.filterMapM fun ⟨(k, v), h⟩ =>
      match fields.lookup k.name with
      | none => pure none
      | some shape => do
        have := sizeOf_lt_of_entry h origin
        let d ← placeAt (v.span? <|> some k.span) (readItem shape v)
        pure (some (k.name, d))
    match Shape.complete fields lenient found with
    | .ok out => .ok (.record out)
    | .error message => .error ⟨message, origin.span⟩
  | .record name fields lenient, .array items span =>
    placeAt (some span) (do
      let given ← items.attach.zipIdx.filterMapM fun (⟨v, _⟩, i) =>
        match fields[i]? with
        | none => pure none
        | some (n, shape) => do
          let d ← placeAt v.span? (readItem shape v)
          pure (some (n, d))
      if lenient || items.length ≥ fields.length then
        .ok (.record (fields.map fun (n, shape) => (n, (given.lookup n).getD shape.default)))
      else .error ⟨shortArray name items.length fields.length, none⟩)
  | .record name fields lenient, .tables items span =>
    placeAt span (do
      let given ← items.attach.zipIdx.filterMapM fun (⟨v, _⟩, i) =>
        match fields[i]? with
        | none => pure none
        | some (n, shape) => do
          let d ← placeAt v.span? (readItem shape v)
          pure (some (n, d))
      if lenient || items.length ≥ fields.length then
        .ok (.record (fields.map fun (n, shape) => (n, (given.lookup n).getD shape.default)))
      else .error ⟨shortArray name items.length fields.length, none⟩)
  | .record _ fields lenient, .datetime span =>
    match Shape.complete fields lenient [] with
    | .ok out => .ok (.record out)
    | .error message => .error ⟨message, some span⟩
  | .choice _ names, .text s span =>
    if names.contains s then .ok (.choice s)
    else .error ⟨unknownVariant s names, some span⟩
  | .choice _ _, item => misfit item "wanted string or table"
  | shape, item => misfit item (invalidType item.found shape.expecting)
termination_by shape item => (sizeOf item, sizeOf shape)
decreasing_by
  all_goals first
    | (apply Prod.Lex.right
       simp only [Shape.optional.sizeOf_spec]
       omega)
    | (apply Prod.Lex.left
       have := List.sizeOf_lt_of_mem (by assumption)
       simp only [Item.array.sizeOf_spec, Item.tables.sizeOf_spec] at *
       omega)
    | (apply Prod.Lex.left
       assumption)

/-- Reads TOML text against a shape: the document's syntax and table rules first, then the
root table against the shape. -/
def read (shape : Shape) (text : String) : Except Trouble Datum :=
  let bytes := text.toUTF8
  match (document bytes).run 0 with
  | (.error f, _) =>
    let span : Span := if f.offset = bytes.size then ⟨f.offset, f.offset⟩ else ⟨f.offset, f.offset + 1⟩
    .error ⟨f.message, some span⟩
  | (.ok (.error clash), _) => .error ⟨clash.text, none⟩
  | (.ok (.ok root), _) => readItem shape root

/-- Reads TOML text against a shape, failing with the full report. -/
def parse (shape : Shape) (text : String) : Except String Datum :=
  (read shape text).mapError (·.render text)

end TomlFormat

end ChatBot
