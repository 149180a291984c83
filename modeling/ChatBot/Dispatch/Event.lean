import ChatBot.Argument.Read
import ChatBot.Dispatch.Settings

/-!
# Messages, events and handlers

A message arrives in a channel of a guild from an author, who may be a bot. When it
addresses a command that runs something, the command's handler receives an `Event`: the
message, the addressed command, the first word that selected it, the argument text, whether
the author is an owner, and the guild's settings as they were when the message arrived.

A handler runs as an `Action`: a program of requests to the bot (`Request`), each continued
by what the handler does with the answer, that ends with a value, a failure or a crash. A
handler may send replies to the event's channel, read and edit any guild's settings, ask for
the event's arguments, read and change the shared registry of commands, and read and update
a memory of its own. It can do nothing else: replies once sent stay sent, and settings
change only through edits of one guild at a time.

A handler has a gate, run first, which decides whether the body runs. The gate acts as the
body does, and may crash, but it cannot fail with a fault (`Action σ η Empty Bool`).

The arguments are read from the argument text only when the handler first asks for them
(`Event.ask`): a request reads the argument text against the shared registry as it is at
that moment, and a successful reading is kept, so later requests are answered from it
without reading again; a failed reading is returned and not kept.
-/

namespace ChatBot

open Text

/-- A message as the bot receives it. -/
structure Message where
  guild : UInt64
  channel : UInt64
  author : String
  fromBot : Bool := false
  content : String
deriving DecidableEq, Repr, Inhabited

/-- A reply sent to a channel. -/
structure Reply where
  channel : UInt64
  content : String
deriving DecidableEq, Repr, Inhabited

/-- The message in the usual debugging form, strings quoted and escaped. -/
def Message.debugText (m : Message) : String :=
  "IncomingMessage \x7b guild_id: " ++ toString m.guild.toNat ++ ", channel_id: "
    ++ toString m.channel.toNat ++ ", author_id: " ++ quoted m.author ++ ", author_is_bot: "
    ++ toString m.fromBot ++ ", content: " ++ quoted m.content ++ " \x7d"

/-- What a handler learns about the message that addressed its command. -/
structure Event where
  message : Message
  command : Command Unit
  label : String
  args : String
  isOwner : Bool
  settings : GuildSettings
  resolver : Resolver

namespace Event

/-- Reads the argument text against `registry`, resolving entities with the event's
resolver. -/
def readAgainst (e : Event) (registry : Registry Unit) : Except Fault Bindings :=
  e.command.signature.read { resolver := e.resolver, commands := some registry } e.args

/-- The event in the usual debugging form: the message, the command's path, the argument
text and the owner mark. -/
def debugText (e : Event) : String :=
  "CommandEvent \x7b message: " ++ e.message.debugText ++ ", command: CommandPath("
    ++ Command.quotedList e.command.path.segments ++ "), args: " ++ quoted e.args
    ++ ", is_owner: " ++ toString e.isOwner ++ " \x7d"

end Event

/-! ## Arguments read once -/

/-- A request a handler makes through its event that bears on the arguments: to have them,
or to change the shared registry into the registry `change` makes of it. -/
inductive EventRequest where
  | arguments
  | editRegistry (change : Registry Unit → Registry Unit)

/-- What stands behind an event's arguments while its handler runs: the shared registry as
it is now, the arguments kept once a reading succeeded, and how many times the argument text
has been read. -/
structure ArgumentCell where
  registry : Registry Unit
  kept : Option Bindings := none
  readings : Nat := 0

namespace Event

/-- Asks for the arguments. Kept arguments answer at once. Otherwise the argument text is
read against the registry as it is now; a success is kept, a failure is returned and not
kept. -/
def ask (e : Event) (cell : ArgumentCell) : Except Fault Bindings × ArgumentCell :=
  match cell.kept with
  | some b => (.ok b, cell)
  | none =>
    let read := { cell with readings := cell.readings + 1 }
    match e.readAgainst cell.registry with
    | .ok b => (.ok b, { read with kept := some b })
    | .error f => (.error f, read)

/-- Serves one request: its answer when it asks for the arguments, and the cell after it. -/
def serve (e : Event) (cell : ArgumentCell) :
    EventRequest → Option (Except Fault Bindings) × ArgumentCell
  | .arguments =>
    let (answer, cell) := e.ask cell
    (some answer, cell)
  | .editRegistry change => (none, { cell with registry := change cell.registry })

/-- Serves requests in order: the answers to the requests for the arguments, and the cell
at the end. -/
def serveAll (e : Event) : ArgumentCell → List EventRequest →
    List (Except Fault Bindings) × ArgumentCell
  | cell, [] => ([], cell)
  | cell, request :: rest =>
    let (answer, cell) := e.serve cell request
    let (answers, last) := e.serveAll cell rest
    (answer.toList ++ answers, last)

end Event

/-! ## Requests and actions -/

/-- What a handler can ask of the bot while it runs. `σ` is the handlers' own memory and `η`
what the registry's commands run. -/
inductive Request (σ η : Type) where
  /-- Send `content` to the event's channel. -/
  | reply (content : String)
  /-- The settings of a guild, created when absent. -/
  | settingsFor (guild : UInt64)
  /-- Apply `f` to the settings of a guild, created first when absent. -/
  | editSettings (guild : UInt64) (f : GuildSettings → GuildSettings)
  /-- The event's arguments, read once. -/
  | arguments
  /-- The shared registry as it is now. -/
  | registry
  /-- Change the shared registry. -/
  | editRegistry (change : Registry.Change η)
  /-- The handlers' memory. -/
  | memory
  /-- Update the handlers' memory. -/
  | remember (f : σ → σ)

/-- What a request is answered with. -/
def Request.Answer {σ η : Type} : Request σ η → Type
  | .settingsFor _ => GuildSettings
  | .arguments => Except Fault Bindings
  | .registry => Registry η
  | .memory => σ
  | .reply _ | .editSettings .. | .editRegistry _ | .remember _ => Unit

/-- Why a program stopped before finishing: a failure it returned, or a crash carrying a text
when it has one. -/
inductive Stop (ε : Type) where
  | fault (f : ε)
  | crash (payload : Option String)
deriving DecidableEq, Repr

/-- The text that describes a crash. -/
def Stop.crashText : Option String → String
  | some t => "handler panicked: " ++ t
  | none => "handler panicked"

/-- A handler's program: it finishes with a value, fails with `ε`, crashes, or asks a
request and continues with the answer. -/
inductive Action (σ η ε α : Type) where
  | done (a : α)
  | fail (f : ε)
  | crash (payload : Option String)
  | ask (request : Request σ η) (next : request.Answer → Action σ η ε α)

namespace Action

variable {σ η ε ε' α β : Type}

/-- Runs `x`, then the program `f` makes of its value. -/
def bind : Action σ η ε α → (α → Action σ η ε β) → Action σ η ε β
  | done a, f => f a
  | fail e, _ => fail e
  | crash p, _ => crash p
  | ask r next, f => ask r fun x => (next x).bind f

/-- Programs are sequenced with `bind`, so handlers are written in `do` notation. -/
instance : Monad (Action σ η ε) where
  pure := done
  bind := bind

/-- The same program with its failures turned into other failures. -/
def mapFailure (g : ε → ε') : Action σ η ε α → Action σ η ε' α
  | done a => done a
  | fail e => fail (g e)
  | crash p => crash p
  | ask r next => ask r fun x => (next x).mapFailure g

/-- Asks one request and finishes with its answer. -/
def request (r : Request σ η) : Action σ η ε r.Answer :=
  ask r done

/-- Sends `content` to the event's channel. -/
def reply (content : String) : Action σ η ε Unit :=
  request (.reply content)

/-- Sends `content` marked as an error. -/
def replyError (content : String) : Action σ η ε Unit :=
  reply (":x: " ++ content)

/-- The value of a computation that may fail; a failure stops the action. -/
def lift : Except ε α → Action σ η ε α
  | .ok a => done a
  | .error f => fail f

/-- The event's arguments; a reading fault stops the action. -/
def arguments : Action σ η Fault Bindings := do
  lift (← request (σ := σ) (η := η) .arguments)

/-- The settings of `guild`, created when absent. -/
def settingsFor (guild : UInt64) : Action σ η ε GuildSettings :=
  request (.settingsFor guild)

/-- Applies `f` to the settings of `guild`. -/
def editSettings (guild : UInt64) (f : GuildSettings → GuildSettings) : Action σ η ε Unit :=
  request (.editSettings guild f)

/-- The shared registry. -/
def registry : Action σ η ε (Registry η) :=
  request .registry

/-- Changes the shared registry. -/
def editRegistry (change : Registry.Change η) : Action σ η ε Unit :=
  request (.editRegistry change)

/-- The handlers' memory. -/
def memory : Action σ η ε σ :=
  request .memory

/-- Updates the handlers' memory. -/
def remember (f : σ → σ) : Action σ η ε Unit :=
  request (.remember f)

end Action

/-! ## Running an action -/

/-- What a running handler acts on: the guild settings, the shared registry, the handlers'
memory, the event's kept arguments with the number of readings of its argument text, and
the replies sent so far. -/
structure World (σ η : Type) where
  settings : SettingsStore
  registry : Registry η
  memory : σ
  kept : Option Bindings := none
  readings : Nat := 0
  replies : List Reply := []

namespace World

variable {σ η : Type}

/-- What stands behind the event's arguments: the shared registry without its actions, and
the arguments kept so far. -/
def cell (w : World σ η) : ArgumentCell :=
  { registry := w.registry.erase, kept := w.kept, readings := w.readings }

/-- Answers one request of a handler running on event `e`. -/
def answer (e : Event) (w : World σ η) : (r : Request σ η) → r.Answer × World σ η
  | .reply content => ((), { w with replies := w.replies ++ [⟨e.message.channel, content⟩] })
  | .settingsFor guild =>
    let (settings, s) := w.settings.settingsFor guild
    (s, { w with settings })
  | .editSettings guild f => ((), { w with settings := w.settings.edit guild f })
  | .arguments =>
    let (read, cell) := e.ask w.cell
    (read, { w with kept := cell.kept, readings := cell.readings })
  | .registry => (w.registry, w)
  | .editRegistry change => ((), { w with registry := w.registry.change change })
  | .memory => (w.memory, w)
  | .remember f => ((), { w with memory := f w.memory })

end World

namespace Action

variable {σ η ε α : Type}

/-- Runs a program for event `e` from world `w`: how it ended, and the world it left. A
program that stops keeps what it did before stopping. -/
def run (e : Event) : Action σ η ε α → World σ η → Except (Stop ε) α × World σ η
  | done a, w => (.ok a, w)
  | fail f, w => (.error (.fault f), w)
  | crash p, w => (.error (.crash p), w)
  | ask r next, w => (next (w.answer e r).1).run e (w.answer e r).2

end Action

/-- What a command runs: a gate that may decline the event, then the body. -/
structure Handler (σ η : Type) where
  admits : Event → Action σ η Empty Bool := fun _ => pure true
  run : Event → Action σ η Fault Unit

/-- The gate, then the body when the gate admits the event. -/
def Handler.perform {σ η : Type} (h : Handler σ η) (e : Event) : Action σ η Fault Unit :=
  ((h.admits e).mapFailure Empty.elim).bind fun admitted =>
    if admitted then h.run e else pure ()

end ChatBot
