import ChatBot.Text.Quoted

/-!
# Document shapes

Configuration files and stored signatures are documents (JSON, TOML or YAML) read against
a `Shape`: text, a truth value, an optional value, a list, a record of named fields, or a
choice among names. Reading yields a `Datum` that has the shape. The three formats differ
in syntax and in how they report failures, but they ask the same questions of a shape,
and describe what they found and what the shape expected in the same words.

A record is *lenient* when every field may be left out (it then takes its default);
otherwise a missing field is a failure. Fields a record does not declare are skipped.
-/

namespace ChatBot

open Text

/-- What a document must hold at some place. -/
inductive Shape where
  /-- A string. -/
  | text
  /-- A truth value. -/
  | flag
  /-- A value of the inner shape, or nothing (`null`). -/
  | optional (inner : Shape)
  /-- A list of values of the item shape. -/
  | list (item : Shape)
  /-- A record called `name` with the fields in order. -/
  | record (name : String) (fields : List (String × Shape)) (lenient : Bool)
  /-- One of the names, written as a string. -/
  | choice (name : String) (names : List String)

/-- A value read for a shape. -/
inductive Datum where
  | text (s : String)
  | flag (b : Bool)
  | nothing
  | just (d : Datum)
  | list (items : List Datum)
  | record (fields : List (String × Datum))
  | choice (name : String)
deriving Inhabited

namespace Shape

/-- How a failure names the expected shape. -/
def expecting : Shape → String
  | text => "a string"
  | flag => "a boolean"
  | optional _ => "option"
  | list _ => "a sequence"
  | record name _ _ => "struct " ++ name
  | choice name _ => "enum " ++ name

/-- The value a left-out field takes in a lenient record. -/
def default : Shape → Datum
  | text => .text ""
  | flag => .flag false
  | optional _ => .nothing
  | list _ => .list []
  | record _ fields _ => .record (fields.attach.map fun ⟨(n, s), _⟩ => (n, default s))
  | choice _ names => .choice (names.headD "")
termination_by s => sizeOf s
decreasing_by
  have := List.sizeOf_lt_of_mem (by assumption)
  simp only [Shape.record.sizeOf_spec, Prod.mk.sizeOf_spec] at *
  omega

end Shape

namespace Datum

/-- The field called `name` of a record. -/
def field? (d : Datum) (name : String) : Option Datum :=
  match d with
  | record fields => fields.lookup name
  | _ => none

/-- The text, when the datum is text. -/
def asText? : Datum → Option String
  | text s => some s
  | _ => none

/-- The truth value, when the datum is one. -/
def asFlag? : Datum → Option Bool
  | flag b => some b
  | _ => none

/-- The inner datum of an optional value, none for nothing. -/
def asOptional? : Datum → Option Datum
  | just d => some d
  | _ => none

/-- The items, when the datum is a list. -/
def asList : Datum → List Datum
  | list items => items
  | _ => []

end Datum

/-- A number as a document holds it: an unsigned or signed integer, or a binary64 floating
point number given by its shortest decimal text. -/
inductive Numeral where
  | unsigned (n : Nat)
  | signed (i : Int)
  | float (shown : String)
deriving DecidableEq, Repr, Inhabited

/-- What a document held where a shape expected something else. -/
inductive Found where
  | flag (b : Bool)
  | number (n : Numeral)
  | text (s : String)
  | unit
  | list
  | map
  | other (s : String)
deriving DecidableEq, Repr, Inhabited

/-- How a failure names what it found. -/
def Found.describe : Found → String
  | flag b => "boolean " ++ "\x60" ++ toString b ++ "\x60"
  | number (.unsigned n) => "integer \x60" ++ toString n ++ "\x60"
  | number (.signed i) => "integer \x60" ++ toString i ++ "\x60"
  | number (.float shown) => "floating point \x60" ++ shown ++ "\x60"
  | text s => "string " ++ quoted s
  | unit => "unit value"
  | list => "sequence"
  | map => "map"
  | other s => s

/-- The failure text for a value of the wrong type. -/
def invalidType (found : Found) (expected : String) : String :=
  "invalid type: " ++ found.describe ++ ", expected " ++ expected

/-- The names in backquotes, as a list of choices: "`a`", "`a` or `b`", or
"one of `a`, `b`, `c`". -/
def oneOf (names : List String) : String :=
  let tick (n : String) := "\x60" ++ n ++ "\x60"
  match names with
  | [] => "there are no variants"
  | [a] => tick a
  | [a, b] => tick a ++ " or " ++ tick b
  | _ => "one of " ++ ", ".intercalate (names.map tick)

/-- The failure text for a name that is not among the choices. -/
def unknownVariant (name : String) (names : List String) : String :=
  match names with
  | [] => "unknown variant \x60" ++ name ++ "\x60, there are no variants"
  | _ => "unknown variant \x60" ++ name ++ "\x60, expected " ++ oneOf names

/-- The failure text for a field a strict record lacks. -/
def missingField (name : String) : String :=
  "missing field \x60" ++ name ++ "\x60"

/-- The failure text for a field given twice. -/
def duplicateField (name : String) : String :=
  "duplicate field \x60" ++ name ++ "\x60"

/-- The fields of a record in declared order, from the fields found: a left-out optional
field is nothing and a left-out field of a lenient record takes its default; any other
left-out field fails, with the words for the first one. -/
def Shape.complete (fields : List (String × Shape)) (lenient : Bool)
    (found : List (String × Datum)) : Except String (List (String × Datum)) :=
  fields.mapM fun (n, shape) =>
    match found.lookup n, shape with
    | some v, _ => .ok (n, v)
    | none, .optional _ => .ok (n, .nothing)
    | none, _ => if lenient then .ok (n, shape.default) else .error (missingField n)

end ChatBot
