import ChatBot.Command.Descent

/-!
# The registry of root commands

The registry keeps root commands in the order they were added; no two share a name.
A message's first word selects a root by exact name or alias (the first added wins), and
the following words walk down that root's tree.
-/

namespace ChatBot

open Text

/-- The root commands, in the order they were added. -/
structure Registry (α : Type) where
  roots : List (Command α) := []

/-- A resolved command line: the addressed node, the lowercased first word that selected
its root, and the argument text left for the node. -/
structure Resolution (α : Type) where
  command : Command α
  label : String
  remainder : String

namespace Registry

variable {α : Type}

/-- The registry with no commands. -/
def empty : Registry α :=
  ⟨[]⟩

/-- Adds a root at the end; refused (and `false`) when a root of the same name exists.
Aliases are not compared. -/
def add (r : Registry α) (c : Command α) : Registry α × Bool :=
  if r.roots.any (fun d => d.name == c.name) then (r, false)
  else (⟨r.roots ++ [c]⟩, true)

/-- Removes the first root with exactly this name, returning it. -/
def remove (r : Registry α) (name : String) : Registry α × Option (Command α) :=
  match r.roots.find? (fun d => d.name == name) with
  | none => (r, none)
  | some c => (⟨r.roots.eraseP (fun d => d.name == name)⟩, some c)

/-- The registry with every root removed. -/
def clear (_ : Registry α) : Registry α :=
  empty

/-- The first root whose name or an alias is exactly `label`. -/
def get? (r : Registry α) (label : String) : Option (Command α) :=
  r.roots.find? (fun d => d.matchesExact label)

/-- Whether some root's name or alias is exactly `label`. -/
def contains (r : Registry α) (label : String) : Bool :=
  r.roots.any (fun d => d.matchesExact label)

/-- The number of roots. -/
def count (r : Registry α) : Nat :=
  r.roots.length

/-- The names of all roots. -/
def names (r : Registry α) : List String :=
  r.roots.map (·.name)

/-- The roots listed in help. -/
def visible (r : Registry α) : List (Command α) :=
  r.roots.filter (·.listed)

/-- The root names that start with `start` lowercased; names are compared as they are. -/
def suggestions (r : Registry α) (start : String) : List String :=
  let wanted := lower start
  (r.roots.filter (fun d => wanted.isPrefixOf d.name)).map (·.name)

/-- What changes the roots: adding a root, removing the root of a name, or clearing. -/
inductive Change (α : Type) where
  | add (c : Command α)
  | remove (name : String)
  | clear

/-- The registry after one change. -/
def change (r : Registry α) : Change α → Registry α
  | .add c => (r.add c).1
  | .remove name => (r.remove name).1
  | .clear => r.clear

/-- The registry with every action forgotten. -/
def erase (r : Registry α) : Registry Unit :=
  ⟨r.roots.map Command.erase⟩

/-- The node addressed by a command line: the first word, lowercased, selects a root; the
remaining words walk down its tree. -/
def resolve (r : Registry α) (input : String) : Option (Resolution α) := do
  let (token, rest) ← splitFirstToken input
  let label := lower token
  let root ← r.get? label
  let (command, remainder) := root.resolve rest
  pure ⟨command, label, remainder⟩

end Registry

end ChatBot
