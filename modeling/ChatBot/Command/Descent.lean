import ChatBot.Command.Basic
import ChatBot.Text.Words

/-!
# Walking down the command tree

The words after a command's name may name one of its children, then one of that child's
children, and so on. The walk is greedy: at each level the first declared child whose
name or alias matches the next word (up to lowercasing) is entered, and the deepest node
reached wins. What is left after the matched words is the argument text of that node.
-/

namespace ChatBot

open Text

namespace Command

variable {α : Type}

/-- The deepest descendant named by the leading words of `remainder`, with the text after
those words (trimmed); `(none, remainder)` when the first word names no child. -/
def findChild (c : Command α) (remainder : String) : Option (Command α) × String :=
  match splitFirstToken remainder with
  | none => (none, remainder)
  | some (token, rest) =>
    match c.children.attach.find? (fun d => d.1.matchesLabel token) with
    | none => (none, remainder)
    | some ⟨d, _⟩ =>
      if rest.isEmpty then (some d, "")
      else
        match findChild d rest with
        | (some deeper, deeperRest) => (some deeper, deeperRest)
        | (none, _) => (some d, rest)
termination_by sizeOf c
decreasing_by exact sizeOf_lt_of_child (by assumption)

/-- The node addressed by `remainder` below this command, or the command itself, with the
argument text that is left. -/
def resolve (c : Command α) (remainder : String) : Command α × String :=
  match c.findChild remainder with
  | (some node, rest) => (node, rest)
  | (none, rest) => (c, trim rest)

end Command

end ChatBot
