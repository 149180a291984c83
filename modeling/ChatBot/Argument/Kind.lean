import ChatBot.Text.Lower

/-!
# Kinds of argument

Each declared argument has a kind, which says what text it accepts: a word, an integer, a
duration, the rest of the line, a flag marker, a command name, or a mention of a chat
entity (user, role, channel, voice channel, category or emote). A kind is written by its
lowercase tag; tags compare without regard to ASCII case, and a name that is no tag is the
kind `unknown`, which accepts nothing.
-/

namespace ChatBot

/-- What text an argument accepts. -/
inductive Kind where
  | channel
  | command
  | digit
  | duration
  | emote
  | flag
  | role
  | text
  | user
  | voice
  | category
  | word
  | unknown
deriving DecidableEq, Repr, Inhabited

namespace Kind

/-- The kinds that have a written tag, in the order names are matched. -/
def named : List Kind :=
  [channel, command, digit, duration, emote, flag, role, text, user, voice, category, word]

/-- The lowercase tag of a kind. -/
def tag : Kind → String
  | channel => "channel"
  | command => "command"
  | digit => "digit"
  | duration => "duration"
  | emote => "emote"
  | flag => "flag"
  | role => "role"
  | text => "text"
  | user => "user"
  | voice => "voice"
  | category => "category"
  | word => "word"
  | unknown => "unknown"

/-- The kind whose tag equals `name` up to ASCII case; `unknown` for any other name,
`unknown` itself included. -/
def ofName (name : String) : Kind :=
  (named.find? fun k => Text.eqIgnoreAsciiCase k.tag name).getD unknown

/-- Kinds that name a chat entity by mention or id. -/
def isEntity : Kind → Bool
  | channel | emote | role | user | voice | category => true
  | _ => false

/-- Kinds that may be repeated. The rest of the line and a flag are taken once. -/
def allowsRepeat : Kind → Bool
  | text | flag => false
  | _ => true

example : ofName "CaTeGoRy" = category ∧ ofName "unknown" = unknown ∧
    ofName "user " = unknown := by
  decide +kernel

end Kind

end ChatBot
