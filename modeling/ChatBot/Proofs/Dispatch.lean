import ChatBot.Dispatch.Dispatcher
import ChatBot.Proofs.Resolution

/-!
# Which messages run a handler

A message runs a command's handler exactly when it is runnable (`Runs`): it is not from a
bot the dispatcher ignores; it starts with an installed mention prefix (the first one it
starts with, in order) or else with its guild's prefix (`Addressed`); the rest, trimmed,
resolves to a command; the command is not owner-only, or the author is an owner; and the
command runs something. The handler then receives the resolved command, the label, the
remainder and whether the author is an owner. Any other message runs nothing: it sends no
reply, reports no failure and leaves the handlers' memory alone. In particular an
owner-only command never runs for anyone else, whatever the tree and the prefixes.

The mention prefixes are installed once: by the configured bot id, or else by the first
ready signal, and nothing a dispatcher is asked to do afterwards changes them (`Call`).
-/

namespace ChatBot

open Text

/-- `s` starts with `p` exactly when it drops to the text after `p`. -/
theorem dropStart?_eq_some_iff {s p r : String} : dropStart? s p = some r ↔ s = p ++ r := by
  unfold dropStart?
  split
  · rename_i starts
    have whole := List.prefix_iff_eq_append.mp (List.isPrefixOf_iff_prefix.mp starts)
    constructor
    · rintro ⟨⟩
      rw [← String.toList_inj, String.toList_append, String.toList_ofList, whole]
    · rintro rfl
      simp
  · rename_i missing
    constructor
    · rintro ⟨⟩
    · rintro rfl
      exact absurd (List.isPrefixOf_iff_prefix.mpr (by simp)) missing

/-- `s` does not drop to a rest after `p` exactly when it does not start with `p`. -/
theorem dropStart?_eq_none_iff {s p : String} : dropStart? s p = none ↔ ∀ r, s ≠ p ++ r := by
  constructor
  · intro missing r spelled
    rw [dropStart?_eq_some_iff.mpr spelled] at missing
    cases missing
  · intro never
    cases dropped : dropStart? s p with
    | none => rfl
    | some r => exact absurd (dropStart?_eq_some_iff.mp dropped) (never r)

/-- The content addresses the bot, leaving `rest`: after the first of the mention
prefixes it starts with, or, when it starts with none of them, after the guild prefix. -/
def Addressed (mentions : List String) (guildPrefix content rest : String) : Prop :=
  (∃ before p after, mentions = before ++ p :: after ∧ (∀ q ∈ before, ∀ r, content ≠ q ++ r) ∧
      content = p ++ rest) ∨
    ((∀ q ∈ mentions, ∀ r, content ≠ q ++ r) ∧ content = guildPrefix ++ rest)

namespace Dispatcher

variable {σ η : Type}

/-- The search through the mention prefixes stops at the first one the content starts
with. -/
theorem findSome?_dropStart?_eq_some_iff (mentions : List String) (content rest : String) :
    mentions.findSome? (dropStart? content) = some rest ↔
      ∃ before p after, mentions = before ++ p :: after ∧
        (∀ q ∈ before, ∀ r, content ≠ q ++ r) ∧ content = p ++ rest := by
  rw [List.findSome?_eq_some_iff]
  constructor
  · rintro ⟨before, p, after, listed, dropped, earlier⟩
    exact ⟨before, p, after, listed,
      fun q member => dropStart?_eq_none_iff.mp (earlier q member), dropStart?_eq_some_iff.mp dropped⟩
  · rintro ⟨before, p, after, listed, earlier, spelled⟩
    exact ⟨before, p, after, listed, dropStart?_eq_some_iff.mpr spelled,
      fun q member => dropStart?_eq_none_iff.mpr (earlier q member)⟩

/-- The command line of a message is the trimmed text after what addresses the bot. -/
theorem commandLine_eq_some_iff (d : Dispatcher σ η) (content guildPrefix line : String) :
    d.commandLine content guildPrefix = some line ↔
      ∃ rest, Addressed d.mentionPrefixes guildPrefix content rest ∧ line = trim rest := by
  unfold commandLine Addressed
  split
  · rename_i rest found
    have mentioned := (findSome?_dropStart?_eq_some_iff _ _ _).mp found
    constructor
    · rintro ⟨⟩
      exact ⟨rest, .inl mentioned, rfl⟩
    · rintro ⟨rest', addressed | ⟨none_, -⟩, rfl⟩
      · -- The first mention prefix the content starts with fixes what is left.
        have same := ((findSome?_dropStart?_eq_some_iff _ _ _).mpr addressed).symm.trans found
        cases same
        rfl
      · obtain ⟨before, p, after, listed, -, spelled⟩ := mentioned
        exact absurd spelled (none_ p (by simp [listed]) rest)
  · rename_i missing
    have none_ : ∀ q ∈ d.mentionPrefixes, ∀ r, content ≠ q ++ r :=
      fun q member => dropStart?_eq_none_iff.mp (List.findSome?_eq_none_iff.mp missing q member)
    constructor
    · intro stripped
      obtain ⟨rest, dropped, rfl⟩ := Option.map_eq_some_iff.mp stripped
      exact ⟨rest, .inr ⟨none_, dropStart?_eq_some_iff.mp dropped⟩, rfl⟩
    · rintro ⟨rest, ⟨before, p, after, listed, -, spelled⟩ | ⟨-, spelled⟩, rfl⟩
      · exact absurd spelled (none_ p (by simp [listed]) rest)
      · simp [dropStart?_eq_some_iff.mpr spelled]

/-- When message `m` runs the handler of key `k` of the command it resolves to (`res`): the
message is heeded, addresses the bot, the rest resolves, the author may run the command, and
the command runs `k`. -/
structure Runs (d : Dispatcher σ η) (m : Message) (res : Resolution η) (k : η) :
    Prop where
  heeded : ¬ (d.ignoreBots = true ∧ m.fromBot = true)
  addressed : ∃ rest, Addressed d.mentionPrefixes
      ((d.settingsFor m.guild).2.effectivePrefix d.defaultPrefix) m.content rest ∧
    d.registry.resolve (trim rest) = some res
  permitted : res.command.ownerOnly = false ∨ d.isOwner m.author = true
  runnable : res.command.action = some k

/-- Running handler `h` on event `e` for the command at `path`: what the handler did to the
settings, the registry and the memory is kept, and the delivery reports its replies and its
failure. -/
def runHandler (d : Dispatcher σ η) (h : Handler σ η) (e : Event) (path : Path) :
    Dispatcher σ η × Delivery :=
  let (outcome, w) := (h.perform e).run e
    { settings := d.settings, registry := d.registry, memory := d.memory }
  ({ d with settings := w.settings, registry := w.registry, memory := w.memory },
    { handled := true, replies := w.replies, failures := failuresOf path outcome })

/-- Looking up a guild's settings touches nothing but the settings. -/
theorem settingsFor_fst (d : Dispatcher σ η) (guild : UInt64) :
    (d.settingsFor guild).1 = { d with settings := (d.settings.settingsFor guild).1 } :=
  rfl

/-- A runnable message runs the handler on the event that carries the message, the
resolved command, its label and remainder, and whether the author is an owner. -/
theorem onMessage_of_runs {d : Dispatcher σ η} {m : Message} {res : Resolution η}
    {k : η} (runs : d.Runs m res k) :
    d.onMessage m = (d.settingsFor m.guild).1.runHandler (d.handlers k)
      { message := m, command := res.command.erase, label := res.label, args := res.remainder,
        isOwner := d.isOwner m.author, settings := (d.settingsFor m.guild).2,
        resolver := d.resolver } res.command.path := by
  obtain ⟨heeded, ⟨rest, addressed, resolved⟩, permitted, runnable⟩ := runs
  have line : (d.settingsFor m.guild).1.commandLine m.content
      ((d.settingsFor m.guild).2.effectivePrefix d.defaultPrefix) = some (trim rest) :=
    (commandLine_eq_some_iff _ _ _ _).mpr ⟨rest, addressed, rfl⟩
  have allowed : (res.command.ownerOnly && !d.isOwner m.author) = false := by
    rcases permitted with notOwnerOnly | owner <;> simp [*]
  unfold onMessage
  rw [if_neg (by simpa using heeded)]
  simp only [settingsFor_fst] at line ⊢
  simp only [line]
  rw [show ({ d with settings := (d.settings.settingsFor m.guild).1 } : Dispatcher σ η).registry =
    d.registry from rfl, resolved]
  simp only [isOwner] at allowed ⊢
  simp only [allowed, Bool.false_eq_true, if_false, runnable]
  rfl

/-- A message that is not runnable runs nothing: it is delivered nowhere, and the
dispatcher is left as it was, but for the guild's settings, which are created when absent
unless the message is ignored as a bot's. -/
theorem onMessage_of_not_runs {d : Dispatcher σ η} {m : Message}
    (idle : ∀ res k, ¬ d.Runs m res k) :
    d.onMessage m = (if (d.ignoreBots && m.fromBot) = true then d else (d.settingsFor m.guild).1, {}) := by
  unfold onMessage
  by_cases ignored : (d.ignoreBots && m.fromBot) = true
  · simp only [ignored, if_true]
  have heeded : ¬ (d.ignoreBots = true ∧ m.fromBot = true) := by simpa using ignored
  simp only [ignored, Bool.false_eq_true, if_false, settingsFor_fst]
  cases line : ({ d with settings := (d.settings.settingsFor m.guild).1 } : Dispatcher σ η).commandLine
      m.content ((d.settingsFor m.guild).2.effectivePrefix d.defaultPrefix) with
  | none => rfl
  | some line' =>
    obtain ⟨rest, addressed, rfl⟩ := (commandLine_eq_some_iff _ _ _ _).mp line
    dsimp only
    cases resolved : d.registry.resolve (trim rest) with
    | none => rfl
    | some res =>
      simp only [isOwner]
      by_cases barred : (res.command.ownerOnly && !d.owners.contains m.author) = true
      · simp only [barred, if_true]
      · simp only [barred, Bool.false_eq_true, if_false]
        cases runnable : res.command.action with
        | none => rfl
        | some k =>
          have permitted : res.command.ownerOnly = false ∨ d.isOwner m.author = true := by
            cases owner : res.command.ownerOnly <;> simp_all [isOwner]
          exact absurd ⟨heeded, ⟨rest, addressed, resolved⟩, permitted, runnable⟩ (idle res k)

/-- A message leaves the dispatcher as it was, or with the settings of the message's guild
created, or as the handler it runs leaves it. So what holds of all three holds after the
message. -/
theorem onMessage_fst_of {P : Dispatcher σ η → Prop} (d : Dispatcher σ η) (m : Message)
    (idle : P d) (read : P (d.settingsFor m.guild).1)
    (ran : ∀ res k, d.Runs m res k → P ((d.settingsFor m.guild).1.runHandler (d.handlers k)
      { message := m, command := res.command.erase, label := res.label, args := res.remainder,
        isOwner := d.isOwner m.author, settings := (d.settingsFor m.guild).2,
        resolver := d.resolver } res.command.path).1) :
    P (d.onMessage m).1 := by
  by_cases runnable : ∃ res k, d.Runs m res k
  · obtain ⟨res, k, runs⟩ := runnable
    rw [onMessage_of_runs runs]
    exact ran res k runs
  · simp only [not_exists] at runnable
    rw [onMessage_of_not_runs runnable]
    split
    · exact idle
    · exact read

/-- A message runs a handler exactly when it is runnable. -/
theorem onMessage_handled_iff (d : Dispatcher σ η) (m : Message) :
    (d.onMessage m).2.handled = true ↔ ∃ res k, d.Runs m res k := by
  constructor
  · intro handled
    by_contra idle
    simp only [not_exists] at idle
    rw [onMessage_of_not_runs idle] at handled
    cases handled
  · rintro ⟨res, h, runs⟩
    rw [onMessage_of_runs runs]
    rfl

/-! ## Mention prefixes are installed once -/

/-- The mention prefixes of the bot with user id `id`: `<@id>`, then `<@!id>`. -/
def mentionsOf (id : String) : List String :=
  ["<@" ++ id ++ ">", "<@!" ++ id ++ ">"]

/-- The ready signal installs the bot's mention prefixes only when none are installed. -/
theorem ready_mentionPrefixes (d : Dispatcher σ η) (id : String) :
    (d.ready id).mentionPrefixes =
      if d.mentionPrefixes = [] then mentionsOf id else d.mentionPrefixes := by
  by_cases empty : d.mentionPrefixes = [] <;> simp [ready, empty, mentionsOf]

/-- A dispatcher made from a configuration has the mention prefixes of the configured bot
id, and none without one. -/
theorem ofConfig_mentionPrefixes (c : Config) (handlers : η → Handler σ η) (memory : σ) :
    (ofConfig c handlers memory).mentionPrefixes = (c.botUserId.map mentionsOf).getD [] := by
  unfold ofConfig
  cases c.botUserId <;> simp [ready_mentionPrefixes]

/-- Dispatching a message leaves the mention prefixes alone. -/
theorem onMessage_mentionPrefixes (d : Dispatcher σ η) (m : Message) :
    (d.onMessage m).1.mentionPrefixes = d.mentionPrefixes :=
  onMessage_fst_of (P := fun d' => d'.mentionPrefixes = d.mentionPrefixes) d m rfl rfl
    fun _ _ _ => rfl

/-- What a dispatcher can be asked to do: take a message or the ready signal with the
bot's user id, add or remove an owner or a root command, look up a guild's settings, or
set a guild's prefix override. -/
inductive Call (σ η : Type) where
  | message (m : Message)
  | ready (id : String)
  | addOwner (id : String)
  | removeOwner (id : String)
  | addCommand (c : Command η)
  | removeCommand (name : String)
  | settingsFor (guild : UInt64)
  | setPrefix (guild : UInt64) (p : Option String)

/-- The dispatcher after one call. -/
def perform (d : Dispatcher σ η) : Call σ η → Dispatcher σ η
  | .message m => (d.onMessage m).1
  | .ready id => d.ready id
  | .addOwner id => d.addOwner id
  | .removeOwner id => d.removeOwner id
  | .addCommand c => (d.addCommand c).1
  | .removeCommand name => (d.removeCommand name).1
  | .settingsFor guild => (d.settingsFor guild).1
  | .setPrefix guild p => { d with settings := d.settings.setPrefix guild p }

/-- The user id of the first ready signal among the calls. -/
def firstReady : List (Call σ η) → Option String
  | [] => none
  | .ready id :: _ => some id
  | _ :: calls => firstReady calls

/-- One call installs mention prefixes only when it is the ready signal and none are
installed. -/
theorem perform_mentionPrefixes (d : Dispatcher σ η) (c : Call σ η) :
    (d.perform c).mentionPrefixes =
      if d.mentionPrefixes = [] then ((firstReady [c]).map mentionsOf).getD []
      else d.mentionPrefixes := by
  cases c with
  | ready id => simp [perform, firstReady, ready_mentionPrefixes]
  | message m =>
    by_cases empty : d.mentionPrefixes = [] <;>
      simp [perform, firstReady, onMessage_mentionPrefixes, empty]
  | _ =>
    by_cases empty : d.mentionPrefixes = [] <;>
      simp [perform, firstReady, empty, addOwner, removeOwner, addCommand, removeCommand,
        settingsFor]

/-- Over any calls, the mention prefixes are those installed before, or else those of the
first ready signal. -/
theorem run_mentionPrefixes (d : Dispatcher σ η) (calls : List (Call σ η)) :
    (calls.foldl perform d).mentionPrefixes =
      if d.mentionPrefixes = [] then ((firstReady calls).map mentionsOf).getD []
      else d.mentionPrefixes := by
  induction calls generalizing d with
  | nil => by_cases empty : d.mentionPrefixes = [] <;> simp [empty, firstReady]
  | cons c calls ih =>
    rw [List.foldl_cons, ih, perform_mentionPrefixes]
    by_cases empty : d.mentionPrefixes = []
    · -- Nothing installed yet: the first call that installs anything is a ready signal.
      cases c <;> simp [empty, firstReady, mentionsOf]
    · simp [empty]

/-- A dispatcher made from a configuration keeps the mention prefixes of the configured
bot id, or else those of the first ready signal, whatever it is asked to do. -/
theorem ofConfig_run_mentionPrefixes (c : Config) (handlers : η → Handler σ η) (memory : σ)
    (calls : List (Call σ η)) :
    (calls.foldl perform (ofConfig c handlers memory)).mentionPrefixes =
      ((c.botUserId <|> firstReady calls).map mentionsOf).getD [] := by
  rw [run_mentionPrefixes, ofConfig_mentionPrefixes]
  cases c.botUserId <;> simp [mentionsOf]

/-- Dispatch runs a handler exactly for runnable messages, so never an owner-only command
for an author who is not an owner. A runnable message runs the handler of the resolved
command on an event that carries the message, the command, its label, the remainder and
whether the author is an owner; any other message runs nothing and changes nothing but,
unless it is an ignored bot's, the creation of its guild's settings. The mention prefixes
are those of the configured bot id, or else of the first ready signal, after any calls. -/
theorem onMessage_runs_iff_runnable (d : Dispatcher σ η) (m : Message) :
    ((d.onMessage m).2.handled = true ↔ ∃ res k, d.Runs m res k) ∧
    (∀ res k, d.Runs m res k → ∃ e : Event,
      e.message = m ∧ e.command = res.command.erase ∧ e.label = res.label ∧
      e.args = res.remainder ∧ e.isOwner = d.isOwner m.author ∧
      d.onMessage m = (d.settingsFor m.guild).1.runHandler (d.handlers k) e res.command.path) ∧
    ((∀ res k, ¬ d.Runs m res k) →
      d.onMessage m =
        (if (d.ignoreBots && m.fromBot) = true then d else (d.settingsFor m.guild).1, {})) ∧
    (∀ (c : Config) (handlers : η → Handler σ η) (memory : σ) (calls : List (Call σ η)),
      (calls.foldl perform (ofConfig c handlers memory)).mentionPrefixes =
        ((c.botUserId <|> firstReady calls).map mentionsOf).getD []) :=
  ⟨onMessage_handled_iff d m,
    fun _ _ runs => ⟨_, rfl, rfl, rfl, rfl, rfl, onMessage_of_runs runs⟩,
    fun idle => onMessage_of_not_runs idle, ofConfig_run_mentionPrefixes⟩

end Dispatcher

end ChatBot
