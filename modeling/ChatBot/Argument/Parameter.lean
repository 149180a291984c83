import ChatBot.Argument.Kind

/-!
# Declared arguments

A parameter is one declared argument of a command: its name, its kind, whether the
command needs it, and whether it takes a list of values. Its usage text is how help
shows it:

* a flag is `!name`;
* any other parameter is `name` when the name is its kind's tag and `name:kind`
  otherwise, followed by `...` when it takes a list;
* the whole is in angle brackets when required and in square brackets otherwise.
-/

namespace ChatBot

/-- One declared argument. -/
structure Parameter where
  name : String
  kind : Kind
  required : Bool
  repeated : Bool
deriving DecidableEq, Repr, Inhabited

namespace Parameter

/-- An optional single-valued parameter; the name is lowercased. -/
def named (name : String) (kind : Kind) : Parameter :=
  { name := Text.lower name, kind, required := false, repeated := false }

/-- Whether the parameter is a flag. -/
def isFlag (p : Parameter) : Bool :=
  p.kind == .flag

/-- The text between the brackets of a usage. -/
def usageBody (p : Parameter) : String :=
  if p.isFlag then "!" ++ p.name
  else
    let named := if p.name == p.kind.tag then p.name else p.name ++ ":" ++ p.kind.tag
    if p.repeated then named ++ "..." else named

/-- The usage text of a parameter, as help shows it. -/
def usage (p : Parameter) : String :=
  if p.required then "<" ++ p.usageBody ++ ">" else "[" ++ p.usageBody ++ "]"

/-- The normal form of a parameter: the name lowercased, a flag never required, and only
kinds that allow it taking a list. -/
def normalize (p : Parameter) : Parameter :=
  { p with
    name := Text.lower p.name
    required := p.required && !p.isFlag
    repeated := p.repeated && p.kind.allowsRepeat }

example : usage { name := "ids", kind := .digit, required := true, repeated := true } =
    "<ids:digit...>" ∧ usage (named "User" .user) = "[user]" := by
  decide +kernel

end Parameter

end ChatBot
