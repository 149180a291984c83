import ChatBot.Argument.Parameter
import ChatBot.Text.Words

/-!
# Argument signatures

A signature is the list of parameters a command declares, in order. It is written as a
usage line such as `<user> [duration] [reason:text] [!silent]` and compiled word by word:

* `<…>` marks a required parameter and `[…]` an optional one; a bare word is required;
* one trailing `...` asks for a list;
* a leading `!` makes a flag named by the rest;
* otherwise the text splits at its first `:` into name and kind tag; without a colon the
  text is the tag, and names the parameter too (a text that is no tag names a parameter of
  kind `unknown`).

Every signature is normalized: names lowercased, flags optional, lists only for kinds that
allow them, and a parameter whose name repeats an earlier one dropped. Printing the
parameters' usages back, separated by spaces, gives the signature's usage line.
-/

namespace ChatBot

/-- The parameters a command declares, in order. -/
structure Signature where
  params : List Parameter
deriving DecidableEq, Repr, Inhabited

namespace Signature

/-- The parameters whose names were not seen before, in order; `seen` holds the names
kept so far. -/
def keepFirst (seen : List String) : List Parameter → List Parameter
  | [] => []
  | p :: rest =>
    if seen.contains p.name then keepFirst seen rest
    else p :: keepFirst (p.name :: seen) rest

/-- The normal form of a parameter list: each parameter normalized, later repeats of a
name dropped. -/
def ofParameters (ps : List Parameter) : Signature :=
  ⟨keepFirst [] (ps.map Parameter.normalize)⟩

/-- The inside of a word wrapped in `opening` and `closing`, if it is so wrapped. -/
def unwrap (cs : List Char) (opening closing : Char) : Option (List Char) :=
  match cs with
  | c :: inner =>
    if c == opening && inner.getLast? == some closing then some inner.dropLast else none
  | [] => none

/-- The text without one trailing `...`, and whether it was there. -/
def dropEllipsis (cs : List Char) : List Char × Bool :=
  if cs.length ≥ 3 && cs.drop (cs.length - 3) == ['.', '.', '.'] then
    (cs.take (cs.length - 3), true)
  else (cs, false)

/-- The parameter a body (brackets and ellipsis removed) declares. -/
def bodyParameter (body : List Char) : Parameter :=
  match body with
  | '!' :: name => Parameter.named (String.ofList name) .flag
  | _ =>
    match body.splitOn ':' with
    | name :: tag :: more =>
      Parameter.named (String.ofList name) (Kind.ofName (String.ofList (":".toList.intercalate (tag :: more))))
    | _ =>
      let kind := Kind.ofName (String.ofList body)
      Parameter.named (if kind == .unknown then String.ofList body else kind.tag) kind

/-- The parameter one word of a usage line declares, before normalization. -/
def wordParameter (word : String) : Parameter :=
  let cs := word.toList
  let (inner, required) :=
    match unwrap cs '<' '>' with
    | some inner => (inner, true)
    | none =>
      match unwrap cs '[' ']' with
      | some inner => (inner, false)
      | none => (cs, true)
  let (body, repeated) := dropEllipsis inner
  { bodyParameter body with required, repeated }

/-- Compiles a usage line into its normalized signature. -/
def compile (spec : String) : Signature :=
  ofParameters ((Text.words spec).map wordParameter)

/-- The usage line: the parameters' usages separated by single spaces. -/
def usage (g : Signature) : String :=
  " ".intercalate (g.params.map Parameter.usage)

/-- The flag parameters, in order. -/
def flags (g : Signature) : List Parameter :=
  g.params.filter Parameter.isFlag

/-- The parameters that are not flags, in order. -/
def positional (g : Signature) : List Parameter :=
  g.params.filter fun p => !p.isFlag

/-- The parameter with the given name, compared after lowercasing it. -/
def get? (g : Signature) (name : String) : Option Parameter :=
  let key := Text.lower name
  g.params.find? fun p => p.name == key

/-- The number of parameters. -/
def size (g : Signature) : Nat :=
  g.params.length

example : (compile "<IDs:Digit...> [reason:text] [!Silent]").usage =
    "<ids:digit...> [reason:text] [!silent]" := by
  decide +kernel

example : (compile "<a:b:c> [x...:flag] <t:TEXT...> user> <>").usage =
    "<a:unknown> [!x...] <t:text> <user>:unknown> <:unknown>" := by
  decide +kernel

end Signature

end ChatBot
