import ChatBot.Config.Basic
import ChatBot.Dispatch.Event

/-!
# The dispatcher

The dispatcher decides, for each message, whether it addresses a command and runs that
command's handler:

1. a message from a bot is ignored when the bot is set to ignore bots;
2. the guild's settings are looked up (created when absent);
3. the message must start with a mention of the bot (`<@id>`, then `<@!id>`) or with the
   guild's prefix, which is stripped; the rest is trimmed;
4. the rest must resolve to a command in the registry;
5. an owner-only command is ignored for other authors, and a command that runs nothing is
   ignored;
6. otherwise the handler runs: its gate, then its body when the gate admits the event. A
   fault or crash of the handler is reported once, under the command's path; it does not
   stop the dispatcher, which keeps what the handler did before it stopped.

The registry's commands run keys of type `η`, and the dispatcher's `handlers` give the
handler each key stands for, so that a running handler can itself add and remove commands.
-/

namespace ChatBot

open Text

/-- The state of a running bot. `σ` is the memory its handlers keep, and `η` what its
commands run: keys that `handlers` turns into handlers. -/
structure Dispatcher (σ η : Type) where
  registry : Registry η := Registry.empty
  handlers : η → Handler σ η
  settings : SettingsStore := {}
  resolver : Resolver := Resolver.mentions
  owners : List String := []
  mentionPrefixes : List String := []
  defaultPrefix : String := "!"
  ignoreBots : Bool := true
  memory : σ

/-- What came of one message: whether a handler ran, the replies it sent, and its failure
(a fault under the command's path), if any. -/
structure Delivery where
  handled : Bool := false
  replies : List Reply := []
  failures : List (Path × Fault) := []

/-- `s` without its leading `p`, when it starts with `p`. -/
def dropStart? (s p : String) : Option String :=
  if p.toList.isPrefixOf s.toList then some (String.ofList (s.toList.drop p.toList.length))
  else none

namespace Dispatcher

variable {σ η : Type}

/-- Installs the mention prefixes of the bot with user id `id`, unless some are installed. -/
def ready (d : Dispatcher σ η) (id : String) : Dispatcher σ η :=
  if d.mentionPrefixes.isEmpty then { d with mentionPrefixes := ["<@" ++ id ++ ">", "<@!" ++ id ++ ">"] }
  else d

/-- A dispatcher for a configuration, with no commands yet: its default prefix, owners and
bot setting, and the mention prefixes when the bot id is known. -/
def ofConfig (c : Config) (handlers : η → Handler σ η) (memory : σ) : Dispatcher σ η :=
  let d : Dispatcher σ η :=
    { handlers, owners := mergeOwners [] c.owners, defaultPrefix := c.defaultPrefix,
      ignoreBots := c.ignoreBots, memory }
  match c.botUserId with
  | some id => d.ready id
  | none => d

/-- Whether `id` is an owner. -/
def isOwner (d : Dispatcher σ η) (id : String) : Bool :=
  d.owners.contains id

/-- Makes `id` an owner. -/
def addOwner (d : Dispatcher σ η) (id : String) : Dispatcher σ η :=
  { d with owners := mergeOwners d.owners [id] }

/-- Makes `id` no longer an owner. -/
def removeOwner (d : Dispatcher σ η) (id : String) : Dispatcher σ η :=
  { d with owners := d.owners.filter (· != id) }

/-- Registers a root command; refused when a root of that name exists. -/
def addCommand (d : Dispatcher σ η) (c : Command η) : Dispatcher σ η × Bool :=
  let (r, added) := d.registry.add c
  ({ d with registry := r }, added)

/-- Unregisters the root command of that name. -/
def removeCommand (d : Dispatcher σ η) (name : String) :
    Dispatcher σ η × Option (Command η) :=
  let (r, removed) := d.registry.remove name
  ({ d with registry := r }, removed)

/-- The settings of a guild, created when absent. -/
def settingsFor (d : Dispatcher σ η) (guild : UInt64) : Dispatcher σ η × GuildSettings :=
  let (st, s) := d.settings.settingsFor guild
  ({ d with settings := st }, s)

/-- The command line of a message: the text after the first mention prefix it starts with,
or else after the guild prefix, trimmed. -/
def commandLine (d : Dispatcher σ η) (content guildPrefix : String) : Option String :=
  match d.mentionPrefixes.findSome? (dropStart? content) with
  | some rest => some (trim rest)
  | none => (dropStart? content guildPrefix).map trim

/-- The failures a handler's outcome reports under `path`: its fault, or the handler fault
that describes its crash. -/
def failuresOf (path : Path) : Except (Stop Fault) Unit → List (Path × Fault)
  | .ok () => []
  | .error (.fault f) => [(path, f)]
  | .error (.crash payload) => [(path, .handler path.render (Stop.crashText payload) none)]

/-- Runs the handler of the command a message addresses, if any. -/
def onMessage (d : Dispatcher σ η) (m : Message) : Dispatcher σ η × Delivery :=
  if d.ignoreBots && m.fromBot then (d, {}) else
  let (d, gs) := d.settingsFor m.guild
  match d.commandLine m.content (gs.effectivePrefix d.defaultPrefix) with
  | none => (d, {})
  | some line =>
    match d.registry.resolve line with
    | none => (d, {})
    | some r =>
      let owner := d.isOwner m.author
      if r.command.ownerOnly && !owner then (d, {}) else
      match r.command.action with
      | none => (d, {})
      | some k =>
        let event : Event :=
          { message := m, command := r.command.erase, label := r.label, args := r.remainder,
            isOwner := owner, settings := gs, resolver := d.resolver }
        let (outcome, w) := ((d.handlers k).perform event).run event
          { settings := d.settings, registry := d.registry, memory := d.memory }
        ({ d with settings := w.settings, registry := w.registry, memory := w.memory },
          { handled := true, replies := w.replies,
            failures := failuresOf r.command.path outcome })

end Dispatcher

end ChatBot
