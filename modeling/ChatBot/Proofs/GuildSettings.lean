import ChatBot.Proofs.Dispatch
import ChatBot.Proofs.Running

/-!
# Guild settings as a map with default entries

The settings store answers two requests: the settings of a guild, created with no override
when absent, and an edit of them. What a read of a guild returns is its default settings with
every edit addressed to that guild applied in order (`settingsFor_foldl_serve`), so nothing
addressed to another guild changes it, and a read never changes what a later read returns,
although it may create an entry. The store holds one entry per guild throughout.

A running handler reads and edits settings through the same two requests. A program that
never asks to edit the settings of a guild, whatever it is answered (`Action.KeepsGuild`),
leaves what a read of that guild returns as it was (`run_settingsFor_of_keepsGuild`), since
every other request leaves it alone.

Dispatch reads a guild's settings to find the prefix a message must start with, so that
prefix changes only through edits of the guild's settings: a prefix override set for the
guild, or a handler that asks to edit them. Every other call leaves it alone.
-/

namespace ChatBot

namespace SettingsStore

/-- What the store is asked: the settings of a guild, or to edit them. -/
inductive Request where
  | read (guild : UInt64)
  | edit (guild : UInt64) (f : GuildSettings → GuildSettings)

/-- The store after answering a request. -/
def serve (st : SettingsStore) : Request → SettingsStore
  | .read guild => (st.settingsFor guild).1
  | .edit guild f => st.edit guild f

/-- The store after answering `requests` in order, starting empty. -/
def ofRequests (requests : List Request) : SettingsStore :=
  requests.foldl serve {}

/-- The edits among `requests` addressed to `guild`, in order. -/
def editsTo (guild : UInt64) : List Request → List (GuildSettings → GuildSettings)
  | [] => []
  | .read _ :: rest => editsTo guild rest
  | .edit g f :: rest => if g = guild then f :: editsTo guild rest else editsTo guild rest

/-- The guilds that have an entry. -/
def guilds (st : SettingsStore) : List UInt64 :=
  st.entries.map Prod.fst

/-! ## Reading and editing one guild -/

/-- A read returns the stored settings, or the default settings when none are stored. -/
theorem settingsFor_snd (st : SettingsStore) (guild : UInt64) :
    (st.settingsFor guild).2 = (st.entries.lookup guild).getD { guild := guild } := by
  unfold settingsFor
  cases stored : st.entries.lookup guild <;> rfl

/-- A read adds an entry with the default settings only for a guild that has none. -/
theorem settingsFor_entries (st : SettingsStore) (guild : UInt64) :
    (st.settingsFor guild).1.entries =
      if (st.entries.lookup guild).isSome then st.entries
      else st.entries ++ [(guild, { guild := guild })] := by
  unfold settingsFor
  cases stored : st.entries.lookup guild <;> rfl

/-- An edit changes the settings under its own guild only. -/
theorem lookup_edited (entries : List (UInt64 × GuildSettings)) (guild g : UInt64)
    (f : GuildSettings → GuildSettings) :
    (entries.map fun (k, s) => if k == guild then (k, f s) else (k, s)).lookup g =
      (entries.lookup g).map (if g = guild then f else id) := by
  induction entries with
  | nil => rfl
  | cons entry rest ih =>
    obtain ⟨k, s⟩ := entry
    by_cases here : g = k
    · subst here
      by_cases edited : g = guild <;> simp [edited]
    · -- The entry stays under `k`, which is not `g`: the lookup goes on to the rest.
      have skipped : (g == k) = false := by simpa using here
      have key : (if (k == guild) = true then (k, f s) else (k, s)) =
          (k, if (k == guild) = true then f s else s) := by
        split <;> rfl
      simp only [List.map_cons, key, List.lookup_cons, skipped]
      exact ih

/-- An edit reads the guild first and applies `f` to the entry under it. -/
theorem edit_entries (st : SettingsStore) (guild : UInt64) (f : GuildSettings → GuildSettings) :
    (st.edit guild f).entries = (st.settingsFor guild).1.entries.map
      fun (k, s) => if k == guild then (k, f s) else (k, s) :=
  rfl

/-- Reading a guild never changes what a later read of any guild returns. -/
theorem settingsFor_settingsFor (st : SettingsStore) (h g : UInt64) :
    ((st.settingsFor h).1.settingsFor g).2 = (st.settingsFor g).2 := by
  rw [settingsFor_snd, settingsFor_snd, settingsFor_entries]
  split
  · rfl
  · rw [List.lookup_append]
    cases stored : st.entries.lookup g with
    | some s => rfl
    | none =>
      by_cases same : g = h
      · subst same
        simp
      · have skipped : (g == h) = false := by simpa using same
        simp [List.lookup_cons, skipped]

/-- An edit of `h` applies to what a read of `h` returns, and to nothing else. -/
theorem settingsFor_edit (st : SettingsStore) (h g : UInt64)
    (f : GuildSettings → GuildSettings) :
    ((st.edit h f).settingsFor g).2 =
      if h = g then f (st.settingsFor g).2 else (st.settingsFor g).2 := by
  have created : ((st.settingsFor h).1.entries.lookup h).isSome := by
    rw [settingsFor_entries]
    split
    · assumption
    · simp [List.lookup_append]
  rw [settingsFor_snd, edit_entries, lookup_edited, ← settingsFor_settingsFor st h g,
    settingsFor_snd]
  by_cases same : h = g
  · subst same
    obtain ⟨s, stored⟩ := Option.isSome_iff_exists.mp created
    simp [stored]
  · simp [Ne.symm same, same]

/-- What one request does to a read of `g`: an edit addressed to `g` applies, and nothing
else changes it. -/
theorem settingsFor_serve (st : SettingsStore) (r : Request) (g : UInt64) :
    ((st.serve r).settingsFor g).2 =
      (editsTo g [r]).foldl (fun s f => f s) (st.settingsFor g).2 := by
  cases r with
  | read h => exact settingsFor_settingsFor st h g
  | edit h f =>
    rw [serve, settingsFor_edit]
    by_cases same : h = g <;> simp [editsTo, same]

/-- The edits to `g` among requests are those of the first one, then those of the rest. -/
theorem editsTo_cons (g : UInt64) (r : Request) (rest : List Request) :
    editsTo g (r :: rest) = editsTo g [r] ++ editsTo g rest := by
  cases r with
  | read h => rfl
  | edit h f => by_cases same : h = g <;> simp [editsTo, same]

/-- Along any requests, a read of `g` returns what it returned before with the edits
addressed to `g` applied in order. -/
theorem settingsFor_foldl_serve (st : SettingsStore) (requests : List Request) (g : UInt64) :
    ((requests.foldl serve st).settingsFor g).2 =
      (editsTo g requests).foldl (fun s f => f s) (st.settingsFor g).2 := by
  induction requests generalizing st with
  | nil => rfl
  | cons r rest ih =>
    rw [List.foldl_cons, ih, settingsFor_serve, editsTo_cons g r rest, List.foldl_append]

/-! ## One entry per guild -/

/-- A read adds its guild last when it is not stored yet. -/
theorem settingsFor_guilds (st : SettingsStore) (guild : UInt64) :
    (st.settingsFor guild).1.guilds =
      if guild ∈ st.guilds then st.guilds else st.guilds ++ [guild] := by
  have stored : (st.entries.lookup guild).isSome ↔ guild ∈ st.guilds := by
    rw [List.lookup_isSome_iff, guilds, List.mem_map]
    constructor
    · rintro ⟨p, member, same⟩
      exact ⟨p, member, (beq_iff_eq.mp same).symm⟩
    · rintro ⟨p, member, rfl⟩
      exact ⟨p, member, beq_self_eq_true _⟩
  by_cases present : guild ∈ st.guilds
  · rw [if_pos present, guilds, settingsFor_entries, if_pos (stored.mpr present)]
    rfl
  · rw [if_neg present, guilds, settingsFor_entries, if_neg (fun s => present (stored.mp s)),
      List.map_append]
    rfl

/-- An edit keeps the guilds of the read it starts with. -/
theorem edit_guilds (st : SettingsStore) (guild : UInt64) (f : GuildSettings → GuildSettings) :
    (st.edit guild f).guilds = (st.settingsFor guild).1.guilds := by
  have keys : (Prod.fst ∘ fun (k, s) => if k == guild then (k, f s) else (k, s)) =
      (Prod.fst : UInt64 × GuildSettings → UInt64) := by
    funext p
    obtain ⟨k, s⟩ := p
    simp only [Function.comp_apply]
    split <;> rfl
  rw [guilds, edit_entries, List.map_map, keys]
  rfl

/-- Every request keeps one entry per guild. -/
theorem serve_guilds_nodup (st : SettingsStore) (distinct : st.guilds.Nodup) (r : Request) :
    (st.serve r).guilds.Nodup := by
  have readNodup : ∀ guild, (st.settingsFor guild).1.guilds.Nodup := by
    intro guild
    rw [settingsFor_guilds]
    split
    · exact distinct
    · rename_i absent
      refine List.nodup_append.mpr ⟨distinct, List.nodup_singleton _, ?_⟩
      intro a member b same
      rw [List.mem_singleton.mp same]
      exact fun eq => absent (eq ▸ member)
  cases r with
  | read guild => exact readNodup guild
  | edit guild f =>
    rw [serve, edit_guilds]
    exact readNodup guild

/-- Along any requests from the empty store there is one entry per guild. -/
theorem ofRequests_guilds_nodup (requests : List Request) :
    (ofRequests requests).guilds.Nodup := by
  suffices ∀ st : SettingsStore, st.guilds.Nodup → (requests.foldl serve st).guilds.Nodup from
    this {} List.nodup_nil
  induction requests with
  | nil => exact fun _ distinct => distinct
  | cons r rest ih => exact fun st distinct => ih _ (serve_guilds_nodup st distinct r)

end SettingsStore

/-! ## Programs that keep a guild's settings -/

/-- Whether the request edits the settings of guild `g`. -/
def Request.editsGuild {σ η : Type} (g : UInt64) : Request σ η → Bool
  | .editSettings guild _ => guild == g
  | _ => false

namespace Action

variable {σ η ε α : Type}

/-- The program never asks to edit the settings of guild `g`, whatever it is answered. -/
def KeepsGuild (g : UInt64) : Action σ η ε α → Prop
  | done _ | fail _ | crash _ => True
  | ask r next => r.editsGuild g = false ∧ ∀ x, (next x).KeepsGuild g

/-- Running `x` and then `f` keeps the guild when `x` does and so does every program `f`
makes. -/
theorem KeepsGuild.bind {β : Type} {g : UInt64} {x : Action σ η ε α} {f : α → Action σ η ε β}
    (first : x.KeepsGuild g) (rest : ∀ a, (f a).KeepsGuild g) : (x.bind f).KeepsGuild g := by
  induction x with
  | done a => exact rest a
  | fail f => trivial
  | crash p => trivial
  | ask r next ih => exact ⟨first.1, fun x => ih x (first.2 x)⟩

/-- Turning failures into others changes no request. -/
theorem KeepsGuild.mapFailure {ε' : Type} {g : UInt64} {h : ε → ε'} {x : Action σ η ε α}
    (keeps : x.KeepsGuild g) : (x.mapFailure h).KeepsGuild g := by
  induction x with
  | done a => trivial
  | fail f => trivial
  | crash p => trivial
  | ask r next ih => exact ⟨keeps.1, fun x => ih x (keeps.2 x)⟩

end Action

namespace World

variable {σ η : Type}

/-- A request that does not edit the settings of `g` leaves what a read of `g` returns. -/
theorem answer_settingsFor {g : UInt64} (e : Event) (w : World σ η) (r : Request σ η)
    (keeps : r.editsGuild g = false) :
    ((w.answer e r).2.settings.settingsFor g).2 = (w.settings.settingsFor g).2 := by
  cases r with
  | settingsFor guild => exact SettingsStore.settingsFor_settingsFor w.settings guild g
  | editSettings guild f =>
    have apart : guild ≠ g := by simpa [Request.editsGuild] using keeps
    show ((w.settings.edit guild f).settingsFor g).2 = _
    rw [SettingsStore.settingsFor_edit, if_neg apart]
  | arguments => rfl
  | reply content => rfl
  | registry => rfl
  | editRegistry change => rfl
  | memory => rfl
  | remember f => rfl

end World

namespace Action

variable {σ η ε α : Type}

/-- A program that keeps guild `g` leaves what a read of `g`'s settings returns as it was,
however it ends. -/
theorem run_settingsFor_of_keepsGuild (e : Event) {g : UInt64} {x : Action σ η ε α}
    (keeps : x.KeepsGuild g) (w : World σ η) :
    ((x.run e w).2.settings.settingsFor g).2 = (w.settings.settingsFor g).2 := by
  induction x generalizing w with
  | done a => rfl
  | fail f => rfl
  | crash p => rfl
  | ask r next ih =>
    rw [run_ask, ih _ (keeps.2 _), World.answer_settingsFor e w r keeps.1]

end Action

/-- The handler's gate and body never ask to edit the settings of guild `g`, for any event. -/
def Handler.KeepsGuild {σ η : Type} (g : UInt64) (h : Handler σ η) : Prop :=
  ∀ e, (h.admits e).KeepsGuild g ∧ (h.run e).KeepsGuild g

/-- A handler that keeps guild `g` runs a program that keeps it. -/
theorem Handler.perform_keepsGuild {σ η : Type} {g : UInt64} {h : Handler σ η}
    (keeps : h.KeepsGuild g) (e : Event) : (h.perform e).KeepsGuild g := by
  refine Action.KeepsGuild.bind (keeps e).1.mapFailure fun admitted => ?_
  cases admitted
  · trivial
  · exact (keeps e).2

namespace Dispatcher

open SettingsStore

variable {σ η : Type}

/-- Running a handler that keeps guild `g` leaves what a read of `g` returns. -/
theorem runHandler_settingsFor (d : Dispatcher σ η) {h : Handler σ η} {g : UInt64}
    (keeps : h.KeepsGuild g) (e : Event) (path : Path) :
    ((d.runHandler h e path).1.settings.settingsFor g).2 = (d.settings.settingsFor g).2 :=
  Action.run_settingsFor_of_keepsGuild e (h.perform_keepsGuild keeps e) _

/-- A call that neither sets the prefix override of `g` nor runs a handler that edits the
settings of `g` leaves those settings, and the prefix that dispatch requires there, as they
were. -/
theorem perform_settingsFor (d : Dispatcher σ η) (c : Call σ η) (g : UInt64)
    (notSet : ∀ p, c ≠ .setPrefix g p)
    (keeps : ∀ m, c = .message m → ∀ res k, d.Runs m res k → (d.handlers k).KeepsGuild g) :
    ((d.perform c).settings.settingsFor g).2 = (d.settings.settingsFor g).2 ∧
      (d.perform c).defaultPrefix = d.defaultPrefix := by
  cases c with
  | message m =>
    rw [perform]
    refine onMessage_fst_of (P := fun d' => (d'.settings.settingsFor g).2 =
        (d.settings.settingsFor g).2 ∧ d'.defaultPrefix = d.defaultPrefix) d m
      ⟨rfl, rfl⟩ ⟨settingsFor_settingsFor _ _ _, rfl⟩ fun res k runs => ⟨?_, rfl⟩
    rw [runHandler_settingsFor _ (keeps m rfl res k runs)]
    exact settingsFor_settingsFor _ _ _
  | settingsFor guild => exact ⟨settingsFor_settingsFor _ _ _, rfl⟩
  | setPrefix guild p =>
    have apart : guild ≠ g := fun same => notSet p (same ▸ rfl)
    refine ⟨?_, rfl⟩
    rw [perform, SettingsStore.setPrefix, settingsFor_edit, if_neg apart]
  | ready id =>
    have kept : d.ready id = d ∨ d.ready id = { d with mentionPrefixes := mentionsOf id } := by
      unfold ready mentionsOf
      split
      · exact .inr rfl
      · exact .inl rfl
    rcases kept with same | same <;> rw [perform, same] <;> exact ⟨rfl, rfl⟩
  | addOwner id => exact ⟨rfl, rfl⟩
  | removeOwner id => exact ⟨rfl, rfl⟩
  | addCommand c => exact ⟨rfl, rfl⟩
  | removeCommand name => exact ⟨rfl, rfl⟩

end Dispatcher

/-- Guild settings form a map with per-guild default entries. Along any sequence of reads
and edits from the empty store, a read of guild `g` returns the default settings of `g` with
every edit addressed to `g` applied in call order, and the store holds one entry per guild.
From any store, a read of any guild and an edit addressed to another guild leave what a read
of `g` returns unchanged. So the prefix that dispatch requires in `g` changes only through
edits of `g`: every dispatcher call other than setting the prefix override of `g` or a
message that runs a handler that asks to edit the settings of `g` leaves it as it was. -/
theorem settings_fold_per_guild :
    (∀ (requests : List SettingsStore.Request) (g : UInt64),
      ((SettingsStore.ofRequests requests).settingsFor g).2 =
        (SettingsStore.editsTo g requests).foldl (fun s f => f s) { guild := g } ∧
      (SettingsStore.ofRequests requests).guilds.Nodup) ∧
    (∀ (st : SettingsStore) (h g : UInt64),
      ((st.settingsFor h).1.settingsFor g).2 = (st.settingsFor g).2 ∧
      ∀ f, h ≠ g → ((st.edit h f).settingsFor g).2 = (st.settingsFor g).2) ∧
    (∀ {σ η : Type} (d : Dispatcher σ η) (c : Dispatcher.Call σ η) (g : UInt64),
      (∀ p, c ≠ .setPrefix g p) →
      (∀ m, c = .message m → ∀ res k, d.Runs m res k → (d.handlers k).KeepsGuild g) →
        ((d.perform c).settings.settingsFor g).2.effectivePrefix (d.perform c).defaultPrefix =
          (d.settings.settingsFor g).2.effectivePrefix d.defaultPrefix) := by
  refine ⟨fun requests g => ⟨?_, SettingsStore.ofRequests_guilds_nodup requests⟩,
    fun st h g => ⟨SettingsStore.settingsFor_settingsFor st h g, fun f apart => ?_⟩,
    fun d c g notSet keeps => ?_⟩
  · rw [SettingsStore.ofRequests, SettingsStore.settingsFor_foldl_serve]
    rfl
  · rw [SettingsStore.settingsFor_edit, if_neg apart]
  · obtain ⟨settings, defaultPrefix⟩ := Dispatcher.perform_settingsFor d c g notSet keeps
    rw [settings, defaultPrefix]

end ChatBot
