import ChatBot.Argument.Signature
import ChatBot.Text.Lower
import ChatBot.Text.Quoted

/-!
# Commands

A command has a name, aliases, a description, an optional category, an owner-only mark, a
listed-in-help mark, an argument signature and child commands. The type parameter `α` is
what a command runs when it is addressed: a handler in a bot, or `Unit` where only the
shape of the tree matters (`Command.erase` forgets the actions).

Commands are declared as a `Spec` and built top-down, so every node knows its path from
the root: the names from its root command down to it, such as `config prefix`, shown with
single spaces between the names. Two commands are the same command exactly when their paths
agree.
-/

namespace ChatBot

open Text

/-- The names from a root command down to a command. -/
structure Path where
  segments : List String
deriving DecidableEq, Repr, Inhabited

namespace Path

/-- The path of a root command. -/
def root (name : String) : Path :=
  ⟨[name]⟩

/-- The path of a child named `name`. -/
def join (p : Path) (name : String) : Path :=
  ⟨p.segments ++ [name]⟩

/-- The number of names; a root command has depth 1. -/
def depth (p : Path) : Nat :=
  p.segments.length

/-- The name of the command itself. -/
def last? (p : Path) : Option String :=
  p.segments.getLast?

/-- The names separated by single spaces. -/
def render (p : Path) : String :=
  " ".intercalate p.segments

end Path

/-- How a command is declared. `aliases` keeps its order and drops exact repeats; the
signature is compiled from `arguments`. -/
structure Spec (α : Type) where
  name : String
  aliases : List String := []
  arguments : String := ""
  description : String := ""
  category : Option String := none
  ownerOnly : Bool := false
  hidden : Bool := false
  children : List (Spec α) := []
  action : Option α := none

/-- A built command: a node of the command tree. -/
structure Command (α : Type) where
  name : String
  aliases : List String
  description : String
  category : Option String
  ownerOnly : Bool
  listed : Bool
  signature : Signature
  children : List (Command α)
  path : Path
  action : Option α

/-- The list with every exact repeat of an earlier entry removed. -/
def keepFirstStrings : List String → List String → List String
  | _, [] => []
  | seen, s :: rest =>
    if seen.contains s then keepFirstStrings seen rest else s :: keepFirstStrings (s :: seen) rest

namespace Spec

variable {α : Type}

/-- A child declaration is smaller than its parent: what lets the build descend. -/
theorem sizeOf_lt_of_child {s c : Spec α} (h : c ∈ s.children) : sizeOf c < sizeOf s := by
  cases s with
  | mk name aliases arguments description category ownerOnly hidden children action =>
    have := List.sizeOf_lt_of_mem (by simpa using h)
    simp only [Spec.mk.sizeOf_spec]
    omega

/-- The command declared by `s`, placed under the command at `parent` (a root when
`parent` is `none`). -/
def buildAt (parent : Option Path) (s : Spec α) : Command α :=
  let path := match parent with
    | some p => p.join s.name
    | none => Path.root s.name
  { name := s.name
    aliases := keepFirstStrings [] s.aliases
    description := s.description
    category := s.category
    ownerOnly := s.ownerOnly
    listed := !s.hidden
    signature := Signature.compile s.arguments
    children := s.children.attach.map (fun ⟨c, _⟩ => buildAt (some path) c)
    path := path
    action := s.action }
termination_by sizeOf s
decreasing_by exact sizeOf_lt_of_child (by assumption)

/-- The root command declared by `s`. -/
def build (s : Spec α) : Command α :=
  buildAt none s

end Spec

namespace Command

variable {α : Type}

/-- A child is smaller than its parent: what lets a walk down the tree stop. -/
theorem sizeOf_lt_of_child {c d : Command α} (h : d ∈ c.children) : sizeOf d < sizeOf c := by
  cases c with
  | mk name aliases description category ownerOnly listed signature children path action =>
    have := List.sizeOf_lt_of_mem (by simpa using h)
    simp only [Command.mk.sizeOf_spec]
    omega

/-- The path of the parent command; `none` for a root. -/
def parent? (c : Command α) : Option Path :=
  if c.path.depth ≤ 1 then none else some ⟨c.path.segments.dropLast⟩

/-- Whether the command is a root of its tree. -/
def isRoot (c : Command α) : Bool :=
  c.path.depth ≤ 1

/-- Whether the command runs something when addressed. -/
def hasAction (c : Command α) : Bool :=
  c.action.isSome

/-- The path, followed by the signature's usage when the signature has parameters. -/
def usage (c : Command α) : String :=
  if c.signature.params.isEmpty then c.path.render
  else c.path.render ++ " " ++ c.signature.usage

/-- The names a command answers to: its name, then its aliases. -/
def labels (c : Command α) : List String :=
  c.name :: c.aliases

/-- Whether `label` names the command up to Unicode lowercasing. -/
def matchesLabel (c : Command α) (label : String) : Bool :=
  let wanted := lower label
  c.labels.any (fun l => lower l == wanted)

/-- Whether `label` is exactly the name or an alias. -/
def matchesExact (c : Command α) (label : String) : Bool :=
  c.labels.contains label

/-- Whether two commands are the same node: commands are identified by their path. -/
def samePath (a : Command α) (b : Command β) : Bool :=
  a.path == b.path

/-- The same tree without its actions; only whether a node has one is kept. -/
def erase (c : Command α) : Command Unit :=
  { name := c.name
    aliases := c.aliases
    description := c.description
    category := c.category
    ownerOnly := c.ownerOnly
    listed := c.listed
    signature := c.signature
    children := c.children.attach.map (fun ⟨d, _⟩ => erase d)
    path := c.path
    action := c.action.map (fun _ => ()) }
termination_by sizeOf c
decreasing_by exact sizeOf_lt_of_child (by assumption)

/-- The child reached by following `names` exactly, one name per level. -/
def descend (c : Command α) : List String → Option (Command α)
  | [] => some c
  | n :: rest =>
    match c.children.find? (fun d => d.name == n) with
    | some d => descend d rest
    | none => none

/-- The list of strings in the usual debugging form: `["a", "b"]`. -/
def quotedList (items : List String) : String :=
  "[" ++ ", ".intercalate (items.map quoted) ++ "]"

/-- A one-line description of the node for debugging: its path, aliases, signature usage,
number of children, owner-only mark and whether it runs something. -/
def debugText (c : Command α) : String :=
  "Command \x7b path: CommandPath(" ++ quotedList c.path.segments ++ "), aliases: "
    ++ quotedList c.aliases ++ ", grammar: " ++ quoted c.signature.usage ++ ", children: "
    ++ toString c.children.length ++ ", requires_owner: " ++ toString c.ownerOnly
    ++ ", has_handler: " ++ toString c.hasAction ++ " \x7d"

end Command

end ChatBot
