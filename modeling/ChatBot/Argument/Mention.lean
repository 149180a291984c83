import ChatBot.Argument.Kind
import ChatBot.Text.CharClass
import ChatBot.Text.Numeral

/-!
# Entities and mentions

An entity is a user, role, channel, voice channel, category or emote of the chat, known
by its 64-bit id and, for emotes, by a name. A resolver turns a token into an entity of a
requested kind. The mention resolver accepts exactly these forms:

* an id alone (an optional `+` and ASCII digits), for every entity kind;
* `<@id>` or `<@!id>` for a user, `<@&id>` for a role, `<#id>` for a channel, a voice
  channel or a category;
* `<:name:id>` or `<a:name:id>` for an emote, which also gives the emote its name.

Inside the brackets, ids are matched as Unicode decimal digits and names as word
characters, but an id must still read as an ASCII number below 2^64.
-/

namespace ChatBot

/-- A chat entity: its kind, id and, for emotes, its name. -/
structure Entity where
  kind : Kind
  id : UInt64
  name : Option String
deriving DecidableEq, Repr, Inhabited

/-- A way to turn a token into an entity of a requested kind. -/
structure Resolver where
  resolve : Kind → String → Option Entity

namespace Mention

/-- The id text of `cs` when it is `opening`, then decimal digits, then `>`. -/
def enclosedDigits (opening : List Char) (cs : List Char) : Option (List Char) :=
  if opening.isPrefixOf cs then
    let inner := cs.drop opening.length
    if inner.getLast? == some '>' then
      let digits := inner.dropLast
      if !digits.isEmpty && digits.all Text.isDecimalDigit then some digits else none
    else none
  else none

/-- The name and id texts of an emote mention `<:name:id>` or `<a:name:id>`. -/
def emoteParts (cs : List Char) : Option (List Char × List Char) :=
  let afterOpen := match cs with
    | '<' :: 'a' :: ':' :: rest => some rest
    | '<' :: ':' :: rest => some rest
    | _ => none
  match afterOpen with
  | none => none
  | some rest =>
    let name := rest.takeWhile Text.isWordChar
    match rest.dropWhile Text.isWordChar with
    | ':' :: tail =>
      match enclosedDigits [] tail with
      | some digits => if name.isEmpty then none else some (name, digits)
      | none => none
    | _ => none

/-- An id written with decimal digits, read as an ASCII number below 2^64. -/
def idOf (digits : List Char) : Option UInt64 :=
  match Text.readDigits digits with
  | some n => if n < Nat.pow 2 64 then some n.toUInt64 else none
  | none => none

/-- The id in a mention of the given kind. -/
def mentionId (kind : Kind) (cs : List Char) : Option UInt64 :=
  let digits := match kind with
    | .user => (enclosedDigits "<@!".toList cs).orElse fun _ => enclosedDigits "<@".toList cs
    | .role => enclosedDigits "<@&".toList cs
    | .channel | .voice | .category => enclosedDigits "<#".toList cs
    | _ => none
  digits.bind idOf

/-- Resolves an id or a mention of the requested kind. -/
def resolve (kind : Kind) (token : String) : Option Entity :=
  match Text.readU64 token with
  | some id => if kind.isEntity then some { kind, id, name := none } else none
  | none =>
    match kind with
    | .emote =>
      match emoteParts token.toList with
      | some (name, digits) =>
        (idOf digits).map fun id => { kind, id, name := some (String.ofList name) }
      | none => none
    | _ => (mentionId kind token.toList).map fun id => { kind, id, name := none }

end Mention

namespace Resolver

/-- The resolver of ids and mentions. -/
def mentions : Resolver :=
  ⟨Mention.resolve⟩

/-- The resolver that resolves nothing. -/
def nothing : Resolver :=
  ⟨fun _ _ => none⟩

/-- A resolver from a table of (kind, token, entity) entries; of two entries for the same
kind and token the later one counts. -/
def ofTable (entries : List (Kind × String × Entity)) : Resolver :=
  ⟨fun kind token =>
    (entries.reverse.find? fun e => e.1 == kind && e.2.1 == token).map fun e => e.2.2⟩

end Resolver

example : Mention.resolve .user "<@!05>" = some ⟨.user, 5, none⟩ ∧
    Mention.resolve .emote "<a:wave:9>" = some ⟨.emote, 9, some "wave"⟩ ∧
    Mention.resolve .user "<@&5>" = none ∧ Mention.resolve .word "5" = none := by
  decide +kernel

end ChatBot
