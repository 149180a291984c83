import ChatBot.Argument.Value
import ChatBot.Fault

/-!
# Parsed arguments

The values read from a message, by parameter name. Names are looked up after Unicode
lowercasing, as parameters are named in lowercase; a fault names the parameter as it was
asked for. Reading a value as a type it does not have is a type fault that reports the
value's own type; an absent value reads as `none`.
-/

namespace ChatBot

open Text

/-- Values by parameter name, one per name. -/
structure Bindings where
  entries : List (String × Value) := []

namespace Bindings

/-- No values. -/
def empty : Bindings :=
  ⟨[]⟩

/-- Stores `v` under `name`, replacing an earlier value of that name. -/
def insert (b : Bindings) (name : String) (v : Value) : Bindings :=
  ⟨b.entries.filter (fun e => e.1 != name) ++ [(name, v)]⟩

/-- The number of stored values. -/
def size (b : Bindings) : Nat :=
  b.entries.length

/-- Whether no value is stored. -/
def isEmpty (b : Bindings) : Bool :=
  b.entries.isEmpty

/-- The value stored under the lowercased `name`. -/
def value? (b : Bindings) (name : String) : Option Value :=
  b.entries.lookup (lower name)

/-- Whether a value is stored under the lowercased `name`. -/
def contains (b : Bindings) (name : String) : Bool :=
  (b.value? name).isSome

/-- The value under `name` read through `convert`; a value that does not convert is a type
fault naming `expected` and the value's type. -/
def read {β : Type} (b : Bindings) (name expected : String) (convert : Value → Option β) :
    Except Fault (Option β) :=
  match b.value? name with
  | none => .ok none
  | some v =>
    match convert v with
    | some x => .ok (some x)
    | none => .error (.typeMismatch name expected v.typeName)

/-- The items of the value under `name` that convert, a single value counting as a list of
one; none when nothing is stored. -/
def readAll {β : Type} (b : Bindings) (name : String) (convert : Value → Option β) :
    Option (List β) :=
  (b.value? name).map (fun v => v.items.filterMap convert)

/-- A signed number. -/
def digit (b : Bindings) (name : String) : Except Fault (Option Int64) :=
  b.read name "digit" Value.asDigit?

/-- A duration in seconds. -/
def duration (b : Bindings) (name : String) : Except Fault (Option UInt64) :=
  b.read name "duration" Value.asDuration?

/-- Text or a single word. -/
def text (b : Bindings) (name : String) : Except Fault (Option String) :=
  b.read name "text" Value.asString?

/-- A flag. -/
def flag (b : Bindings) (name : String) : Except Fault (Option Bool) :=
  b.read name "flag" Value.asFlag?

/-- A command of the tree. -/
def command (b : Bindings) (name : String) : Except Fault (Option (Command Unit)) :=
  b.read name "command" Value.asCommand?

/-- An entity of any kind. -/
def entity (b : Bindings) (name : String) : Except Fault (Option Entity) :=
  b.read name "entity" Value.asEntity?

/-- An entity of kind `k`; anything else is a type fault that expects `k`. -/
def entityOf (b : Bindings) (name : String) (k : Kind) : Except Fault (Option Entity) :=
  b.read name k.tag (Value.asEntityOf? k)

end Bindings

end ChatBot
