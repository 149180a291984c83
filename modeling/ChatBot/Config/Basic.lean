import ChatBot.Fault
import ChatBot.Text.CharClass
import ChatBot.Text.Numeral

/-!
# Bot configuration

The settings a bot starts from: the default command prefix, the owners, the bot's own
user id (which lets users address it by mention), whether messages from other bots are
ignored, and how it logs.

Configuration is assembled from layers. An `Overlay` holds what one layer sets; applying
it replaces each set field, except the owners, which are merged: a new owner is appended
when not already present. A layer cannot unset the bot id.
-/

namespace ChatBot

open Text

/-- How the bot logs. -/
structure Logging where
  level : String := "info"
  format : String := "pretty"
deriving DecidableEq, Repr, Inhabited

/-- The settings of a bot. -/
structure Config where
  defaultPrefix : String := "!"
  owners : List String := []
  botUserId : Option String := none
  ignoreBots : Bool := true
  logging : Logging := {}
deriving DecidableEq, Repr, Inhabited

/-- What one layer sets of the logging settings. -/
structure LoggingOverlay where
  level : Option String := none
  format : Option String := none
deriving DecidableEq, Repr, Inhabited

/-- What one layer of configuration sets. -/
structure Overlay where
  defaultPrefix : Option String := none
  owners : List String := []
  botUserId : Option String := none
  ignoreBots : Option Bool := none
  logging : LoggingOverlay := {}
deriving DecidableEq, Repr, Inhabited

/-- `owners` with each of `more` appended unless already present. -/
def mergeOwners (owners : List String) : List String → List String
  | [] => owners
  | o :: rest => mergeOwners (if owners.contains o then owners else owners ++ [o]) rest

namespace Logging

/-- The logging settings with a layer applied. -/
def apply (l : Logging) (o : LoggingOverlay) : Logging :=
  { level := o.level.getD l.level, format := o.format.getD l.format }

end Logging

namespace Config

/-- The configuration with one layer applied. -/
def apply (c : Config) (o : Overlay) : Config :=
  { defaultPrefix := o.defaultPrefix.getD c.defaultPrefix
    owners := mergeOwners c.owners o.owners
    botUserId := o.botUserId.orElse (fun _ => c.botUserId)
    ignoreBots := o.ignoreBots.getD c.ignoreBots
    logging := c.logging.apply o.logging }

/-- Checks that the configuration can run a bot: the default prefix is non-empty and has
no whitespace, and a bot id, when given, is a 64-bit unsigned number. -/
def validate (c : Config) : Except Fault Unit :=
  if c.defaultPrefix.isEmpty then
    .error (.invalidField "Default prefix cannot be empty" "default_prefix")
  else if c.defaultPrefix.toList.any isBlank then
    .error (.invalidField ("Default prefix '" ++ c.defaultPrefix ++ "' contains whitespace")
      "default_prefix")
  else
    match c.botUserId with
    | some id =>
      if (readU64 id).isNone then
        .error (.invalidField ("Bot user id '" ++ id ++ "' is not a snowflake") "bot_user_id")
      else .ok ()
    | none => .ok ()

end Config

end ChatBot
