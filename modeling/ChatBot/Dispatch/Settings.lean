/-!
# Guild settings

Each guild (a chat server) may override the bot's default command prefix. The store keeps
one entry per guild, under the guild's id; asking for a guild's settings creates its entry
with no override. An edit changes the settings stored under the id it names, whatever it
does to their fields.
-/

namespace ChatBot

/-- The settings of one guild. -/
structure GuildSettings where
  guild : UInt64
  customPrefix : Option String := none
deriving DecidableEq, Repr, Inhabited

/-- The prefix that addresses the bot in the guild: the override, or else `default`. -/
def GuildSettings.effectivePrefix (s : GuildSettings) (default : String) : String :=
  s.customPrefix.getD default

/-- The settings of every guild seen so far, each under its guild's id, in order of first
use. -/
structure SettingsStore where
  entries : List (UInt64 × GuildSettings) := []
deriving DecidableEq, Repr, Inhabited

namespace SettingsStore

/-- The number of guilds stored. -/
def size (st : SettingsStore) : Nat :=
  st.entries.length

/-- The settings of `guild`, creating them (with no override) when absent. -/
def settingsFor (st : SettingsStore) (guild : UInt64) : SettingsStore × GuildSettings :=
  match st.entries.lookup guild with
  | some s => (st, s)
  | none => (⟨st.entries ++ [(guild, { guild := guild })]⟩, { guild := guild })

/-- The store with `f` applied to the settings stored under `guild`, created first when
absent. -/
def edit (st : SettingsStore) (guild : UInt64) (f : GuildSettings → GuildSettings) :
    SettingsStore :=
  let (st, _) := st.settingsFor guild
  ⟨st.entries.map fun (g, s) => if g == guild then (g, f s) else (g, s)⟩

/-- The store with the prefix override of `guild` set (or cleared with `none`). -/
def setPrefix (st : SettingsStore) (guild : UInt64) (p : Option String) : SettingsStore :=
  st.edit guild fun s => { s with customPrefix := p }

end SettingsStore

end ChatBot
