import Mathlib
import ChatBot.Config.Loader

/-!
# Loading a configuration: the last layer wins

Loading reads its sources in order. Every source is read, those before a later `defaults`
too, and the first file that cannot be read or parsed stops the loading with its fault, which
names the file: an IO fault with its path when its bytes cannot be read as text, a
serialization fault whose context names it when the text does not parse. When every file is
read, only the sources after the last `defaults` count. Each contributes layers
(`Source.layers`): a file its one layer, a variable map one layer per variable. The
configuration is `Config.ofLayers` of those layers: every field holds the value of the last
layer that sets it, or its default, and the owners are the owners the layers name, in order,
each once. It is returned when it passes validation.

So the order in which a variable map lists its variables does not matter when no name is
listed twice, and a file that does not exist can be left out. The main statement is
`loadConfig_last_layer_wins`.
-/

namespace ChatBot

open Text

/-- The owners a value of `KRIESS_OWNERS` names: its comma-separated pieces, trimmed, the
empty ones dropped. -/
def ownerList (v : String) : List String :=
  ((v.splitOn ",").map trim).filter (· ≠ "")

/-- What one variable sets, as a layer; a variable of another name sets nothing. -/
def variableLayer : String × String → Overlay
  | ("KRIESS_PREFIX", v) => { defaultPrefix := some v }
  | ("KRIESS_OWNERS", v) => { owners := ownerList v }
  | ("KRIESS_BOT_ID", v) => { botUserId := some v }
  | ("KRIESS_LOG", v) => { logging := { level := some v } }
  | _ => {}

namespace Source

/-- Whether a source starts over from the defaults. -/
def isDefaults : Source → Bool
  | .defaults => true
  | _ => false

/-- The layers a source contributes, or the fault of a file that cannot be read or parsed.
Starting over from the defaults contributes none. -/
def layers (toml yaml json : FileFormat) : Source → Except Fault (List Overlay)
  | .defaults => .ok []
  | .vars entries => .ok (entries.map variableLayer)
  | .file path state => (readLayer toml yaml json path state).map fun o => [o]

end Source

/-- The sources after the last `defaults`, all of them when there is none. -/
def afterReset (sources : List Source) : List Source :=
  (sources.reverse.takeWhile fun s => !s.isDefaults).reverse

/-- The reader a file's name selects is one of the three. -/
theorem formatFor_cases (toml yaml json : FileFormat) (path : String) :
    formatFor toml yaml json path = toml ∨ formatFor toml yaml json path = yaml ∨
      formatFor toml yaml json path = json := by
  unfold formatFor
  split <;> simp

/-- A file that exists but whose bytes cannot be read as text: one the system refuses to
read, or bytes that are not UTF-8. -/
def FileState.Unreadable : FileState → Prop
  | .missing => False
  | .unreadable _ => True
  | .bytes content => String.fromUTF8? content = none

namespace Config

/-- The value given to a field by the last layer that sets it. -/
def lastSet {β : Type} (field : Overlay → Option β) (layers : List Overlay) : Option β :=
  layers.reverse.findSome? field

/-- The configuration that layers give over the defaults: each field holds the value of the
last layer that sets it, or its default, and the owners are those the layers name, in order,
each once. -/
def ofLayers (layers : List Overlay) : Config where
  defaultPrefix := (lastSet (·.defaultPrefix) layers).getD ({} : Config).defaultPrefix
  owners := (layers.flatMap (·.owners)).eraseDups
  botUserId := lastSet (·.botUserId) layers
  ignoreBots := (lastSet (·.ignoreBots) layers).getD ({} : Config).ignoreBots
  logging :=
    { level := (lastSet (·.logging.level) layers).getD ({} : Config).logging.level
      format := (lastSet (·.logging.format) layers).getD ({} : Config).logging.format }

end Config

namespace Overlay

/-- Two layers that never set the same field, owners included. -/
def Apart (o p : Overlay) : Prop :=
  (o.defaultPrefix = none ∨ p.defaultPrefix = none) ∧ (o.owners = [] ∨ p.owners = []) ∧
    (o.botUserId = none ∨ p.botUserId = none) ∧
    (o.ignoreBots = none ∨ p.ignoreBots = none) ∧
    (o.logging.level = none ∨ p.logging.level = none) ∧
    (o.logging.format = none ∨ p.logging.format = none)

end Overlay

/-- One source applied to the configuration built so far: the body of the loading loop. -/
def loadStep (toml yaml json : FileFormat) (c : Config) : Source → Except Fault Config
  | .defaults => .ok {}
  | .vars entries => .ok (entries.foldl applyVariable c)
  | .file path state => c.apply <$> readLayer toml yaml json path state

/-- `defaults` starts over from the defaults. -/
@[simp] theorem loadStep_defaults (toml yaml json : FileFormat) (c : Config) :
    loadStep toml yaml json c .defaults = pure {} :=
  rfl

/-- `defaults` contributes no layer. -/
@[simp] theorem layers_defaults (toml yaml json : FileFormat) :
    Source.layers toml yaml json .defaults = pure [] :=
  rfl

/-! ## Owners -/

/-- Merging owners into a list without repeats is first-occurrence deduplication of the two
lists joined. -/
theorem mergeOwners_eraseDups (owners more : List String) :
    mergeOwners owners.eraseDups more = (owners ++ more).eraseDups := by
  induction more generalizing owners with
  | nil => simp [mergeOwners]
  | cons o rest ih =>
    have step : (if owners.eraseDups.contains o then owners.eraseDups
        else owners.eraseDups ++ [o]) = (owners ++ [o]).eraseDups := by
      rw [List.eraseDups_append]
      by_cases known : o ∈ owners
      · simp [List.removeAll, known, List.mem_eraseDups]
      · simp [List.removeAll, known, List.mem_eraseDups, List.eraseDups_cons]
    rw [mergeOwners, step, ih, List.append_assoc, List.singleton_append]

/-! ## Layers -/

namespace Config

/-- A layer that sets nothing changes nothing. -/
@[simp] theorem apply_empty (c : Config) : c.apply {} = c := rfl

/-- A layer added last decides a field it sets; otherwise the layers before it decide. -/
theorem lastSet_append_singleton {β : Type} (field : Overlay → Option β)
    (layers : List Overlay) (o : Overlay) :
    lastSet field (layers ++ [o]) = (field o).orElse fun _ => lastSet field layers := by
  simp only [lastSet, List.reverse_append, List.reverse_singleton, List.singleton_append,
    List.findSome?_cons]
  cases field o <;> rfl

/-- No layers give the defaults. -/
@[simp] theorem ofLayers_nil : ofLayers [] = {} := rfl

/-- Adding a layer last applies it. -/
theorem ofLayers_append_singleton (layers : List Overlay) (o : Overlay) :
    ofLayers (layers ++ [o]) = (ofLayers layers).apply o := by
  have getD_orElse {β : Type} (x y : Option β) (d : β) :
      (x.orElse fun _ => y).getD d = x.getD (y.getD d) := by
    cases x <;> rfl
  simp only [ofLayers, Config.apply, Logging.apply, lastSet_append_singleton, getD_orElse,
    List.flatMap_append, List.flatMap_singleton, mergeOwners_eraseDups]

/-- Applying layers one after another to the configuration of earlier layers gives the
configuration of all of them. -/
theorem foldl_apply_ofLayers (pre layers : List Overlay) :
    layers.foldl Config.apply (ofLayers pre) = ofLayers (pre ++ layers) := by
  induction layers generalizing pre with
  | nil => simp
  | cons o rest ih =>
    rw [List.foldl_cons, ← ofLayers_append_singleton, ih, List.append_assoc,
      List.singleton_append]

/-- A field set by only one of two layers comes out the same in either order. -/
theorem getD_getD_comm {β : Type} {x y : Option β} (d : β) (apart : x = none ∨ y = none) :
    y.getD (x.getD d) = x.getD (y.getD d) := by
  rcases apart with rfl | rfl <;> rfl

/-- Two fallbacks of which one is missing may be taken in either order. -/
theorem orElse_orElse_comm {β : Type} {x y : Option β} (d : Option β)
    (apart : x = none ∨ y = none) :
    (y.orElse fun _ => x.orElse fun _ => d) = x.orElse fun _ => y.orElse fun _ => d := by
  rcases apart with rfl | rfl <;> rfl

/-- Merging owners in either order agrees when one side names none. -/
theorem mergeOwners_comm (owners : List String) {xs ys : List String}
    (apart : xs = [] ∨ ys = []) :
    mergeOwners (mergeOwners owners xs) ys = mergeOwners (mergeOwners owners ys) xs := by
  rcases apart with rfl | rfl <;> rfl

/-- Layers that never set the same field can be applied in either order. -/
theorem apply_comm {o p : Overlay} (apart : o.Apart p) (c : Config) :
    (c.apply o).apply p = (c.apply p).apply o := by
  obtain ⟨fixes, owns, names, ignores, levels, formats⟩ := apart
  simp only [Config.apply, Logging.apply, Config.mk.injEq, Logging.mk.injEq]
  exact ⟨getD_getD_comm _ fixes, mergeOwners_comm _ owns, orElse_orElse_comm _ names,
    getD_getD_comm _ ignores, getD_getD_comm _ levels, getD_getD_comm _ formats⟩

end Config

/-! ## Variables -/

/-- Each variable applies the layer it stands for. -/
theorem applyVariable_eq (c : Config) (e : String × String) :
    applyVariable c e = c.apply (variableLayer e) := by
  unfold applyVariable
  split
  · rfl
  · rfl
  · rfl
  · rfl
  · rename_i notPrefix notOwners notBotId notLog
    have unset : variableLayer e = {} := by
      unfold variableLayer
      split
      · exact absurd rfl (notPrefix _)
      · exact absurd rfl (notOwners _)
      · exact absurd rfl (notBotId _)
      · exact absurd rfl (notLog _)
      · rfl
    rw [unset, Config.apply_empty]

/-- A variable map applies the layers of its variables in order. -/
theorem foldl_applyVariable (c : Config) (entries : List (String × String)) :
    entries.foldl applyVariable c = (entries.map variableLayer).foldl Config.apply c := by
  have same : applyVariable = fun c e => c.apply (variableLayer e) :=
    funext fun c => funext (applyVariable_eq c)
  rw [same, List.foldl_map]

/-- A variable's layer sets at most the field its name selects, and never `ignoreBots` or
the log format. -/
theorem variableLayer_sets (e : String × String) :
    ((variableLayer e).defaultPrefix = none ∨ e.1 = "KRIESS_PREFIX") ∧
      ((variableLayer e).owners = [] ∨ e.1 = "KRIESS_OWNERS") ∧
      ((variableLayer e).botUserId = none ∨ e.1 = "KRIESS_BOT_ID") ∧
      (variableLayer e).ignoreBots = none ∧
      ((variableLayer e).logging.level = none ∨ e.1 = "KRIESS_LOG") ∧
      (variableLayer e).logging.format = none := by
  unfold variableLayer
  split <;> simp

/-- Variables of different names have layers that never set the same field. -/
theorem variableLayer_apart {a b : String × String} (distinct : a.1 ≠ b.1) :
    (variableLayer a).Apart (variableLayer b) := by
  obtain ⟨fixesA, ownsA, namesA, ignoresA, levelsA, formatsA⟩ := variableLayer_sets a
  obtain ⟨fixesB, ownsB, namesB, -, levelsB, -⟩ := variableLayer_sets b
  refine ⟨?_, ?_, ?_, .inl ignoresA, ?_, .inl formatsA⟩ <;> grind

/-- Variables of different names can be applied in either order. -/
theorem applyVariable_comm (c : Config) {a b : String × String} (distinct : a.1 ≠ b.1) :
    applyVariable (applyVariable c a) b = applyVariable (applyVariable c b) a := by
  simp only [applyVariable_eq]
  exact Config.apply_comm (variableLayer_apart distinct) c

/-- A variable map that names each variable once gives the same configuration in any order. -/
theorem foldl_applyVariable_perm {entries entries' : List (String × String)}
    (reordered : entries.Perm entries') (distinct : (entries.map Prod.fst).Nodup) (c : Config) :
    entries.foldl applyVariable c = entries'.foldl applyVariable c := by
  refine reordered.foldl_eq' (fun a memA b memB z => ?_) c
  by_cases same : a.1 = b.1
  · rw [List.inj_on_of_nodup_map distinct memA memB same]
  · exact applyVariable_comm z same

/-! ## Starting over -/

/-- A list of sources either has no `defaults`, or has a last one. -/
theorem split_last_defaults (sources : List Source) :
    (∀ s ∈ sources, s.isDefaults = false) ∨
      ∃ pre post, sources = pre ++ .defaults :: post ∧
        ∀ s ∈ post, s.isDefaults = false := by
  induction sources with
  | nil => exact .inl (by simp)
  | cons s rest ih =>
    rcases ih with kept | ⟨pre, post, rfl, kept⟩
    · cases s with
      | defaults => exact .inr ⟨[], rest, rfl, kept⟩
      | vars entries => exact .inl (by simpa [Source.isDefaults] using kept)
      | file path state => exact .inl (by simpa [Source.isDefaults] using kept)
    · exact .inr ⟨s :: pre, post, rfl, kept⟩

/-- Sources with no `defaults` among them are kept whole. -/
theorem afterReset_of_kept {sources : List Source}
    (kept : ∀ s ∈ sources, s.isDefaults = false) :
    afterReset sources = sources := by
  rw [afterReset, List.takeWhile_eq_self_iff.mpr (by simpa using kept), List.reverse_reverse]

/-- Only the sources after the last `defaults` are kept. -/
theorem afterReset_append_defaults (pre : List Source) {post : List Source}
    (kept : ∀ s ∈ post, s.isDefaults = false) :
    afterReset (pre ++ .defaults :: post) = post := by
  rw [afterReset, List.reverse_append, List.reverse_cons, List.append_assoc,
    List.takeWhile_append_of_pos (by simpa using kept)]
  simp [Source.isDefaults]

/-! ## The loading loop -/

section Loading

variable (toml yaml json : FileFormat)

/-- The loading loop is a left fold of `loadStep` from the defaults, then validation. -/
theorem loadConfig_eq_foldlM (sources : List Source) :
    loadConfig toml yaml json sources = (do
      let c ← sources.foldlM (loadStep toml yaml json) {}
      c.validate
      pure c) := by
  have loop : ∀ c : Config,
      forIn sources c (fun s c => ForInStep.yield <$> loadStep toml yaml json c s) =
        sources.foldlM (loadStep toml yaml json) c := by
    intro c
    rw [List.forIn_yield_eq_foldlM]
    simp only [id_map']
  rw [← loop]
  unfold loadConfig
  simp only []
  refine congrArg (fun run : Except Fault Config => run >>= fun c => c.validate >>= fun _ => pure c)
    (congrArg (forIn sources ({} : Config)) ?_)
  funext s c
  cases s with
  | defaults => rfl
  | vars entries => rfl
  | file path state =>
    dsimp only [loadStep]
    cases readLayer toml yaml json path state <;> rfl

/-- Every source but `defaults` applies its layers to the configuration built so far. -/
theorem loadStep_eq_layers (c : Config) {s : Source} (kept : s.isDefaults = false) :
    loadStep toml yaml json c s =
      (fun ls => ls.foldl Config.apply c) <$> s.layers toml yaml json := by
  cases s with
  | defaults => cases kept
  | vars entries =>
    rw [loadStep, Source.layers, foldl_applyVariable]
    rfl
  | file path state =>
    simp only [loadStep, Source.layers]
    cases readLayer toml yaml json path state <;> rfl

/-- Sources with no `defaults` among them apply their layers in order, or fail with the fault
of the first one that cannot be read. -/
theorem foldlM_loadStep_of_kept (sources : List Source)
    (kept : ∀ s ∈ sources, s.isDefaults = false) (c : Config) :
    sources.foldlM (loadStep toml yaml json) c =
      (fun lss => lss.flatten.foldl Config.apply c) <$>
        sources.mapM (Source.layers toml yaml json) := by
  induction sources generalizing c with
  | nil => rfl
  | cons s rest ih =>
    have restKept : ∀ t ∈ rest, t.isDefaults = false :=
      fun t mem => kept t (List.mem_cons_of_mem s mem)
    rw [List.foldlM_cons, List.mapM_cons,
      loadStep_eq_layers toml yaml json c (kept s List.mem_cons_self)]
    cases s.layers toml yaml json with
    | error f => rfl
    | ok ls =>
      show rest.foldlM (loadStep toml yaml json) (ls.foldl Config.apply c) =
        (fun lss => lss.flatten.foldl Config.apply c) <$>
          (rest.mapM (Source.layers toml yaml json) >>= fun lss => pure (ls :: lss))
      rw [ih restKept]
      cases rest.mapM (Source.layers toml yaml json) with
      | error f => rfl
      | ok lss => exact congrArg Except.ok (by simp only [List.flatten_cons, List.foldl_append])

/-- What follows the loop sees only whether every source could be read: the loop fails with
the fault of the first source that cannot be read. -/
theorem foldlM_loadStep_bind {β : Type} (sources : List Source) (c : Config)
    (next : Except Fault β) :
    (sources.foldlM (loadStep toml yaml json) c >>= fun _ => next) =
      (sources.mapM (Source.layers toml yaml json) >>= fun _ => next) := by
  induction sources generalizing c with
  | nil => rfl
  | cons s rest ih =>
    simp only [List.foldlM_cons, List.mapM_cons, bind_assoc, pure_bind, ih]
    cases s with
    | defaults => rfl
    | vars _ | file _ _ => rw [loadStep_eq_layers toml yaml json c rfl, bind_map_left]

/-- Loading in closed form. Every source is read, and the first one that cannot be read
gives the fault; otherwise the layers of the sources after the last `defaults` give the
configuration, which is returned when it passes validation. -/
theorem loadConfig_eq (sources : List Source) :
    loadConfig toml yaml json sources = (do
      let _ ← sources.mapM (Source.layers toml yaml json)
      let lss ← (afterReset sources).mapM (Source.layers toml yaml json)
      let c := Config.ofLayers lss.flatten
      c.validate
      pure c) := by
  have fresh (post : List Source) (kept : ∀ s ∈ post, s.isDefaults = false) :
      post.foldlM (loadStep toml yaml json) {} =
        (fun lss => Config.ofLayers lss.flatten) <$> post.mapM (Source.layers toml yaml json) := by
    rw [foldlM_loadStep_of_kept toml yaml json post kept, ← Config.ofLayers_nil]
    simp only [Config.foldl_apply_ofLayers, List.nil_append]
  rw [loadConfig_eq_foldlM]
  rcases split_last_defaults sources with kept | ⟨pre, post, rfl, kept⟩
  · rw [afterReset_of_kept kept, fresh sources kept]
    cases sources.mapM (Source.layers toml yaml json) <;> rfl
  · -- The sources before the last `defaults` only need to be readable.
    rw [afterReset_append_defaults pre kept, List.foldlM_append]
    simp only [List.foldlM_cons, loadStep_defaults, pure_bind, bind_assoc]
    rw [foldlM_loadStep_bind, fresh post kept, List.mapM_append, List.mapM_cons]
    simp only [layers_defaults, bind_assoc, pure_bind]
    cases pre.mapM (Source.layers toml yaml json) <;>
      cases post.mapM (Source.layers toml yaml json) <;> rfl

/-! ## Faults -/

/-- A file that cannot be read is an IO fault that names its path. -/
theorem readLayer_unreadable (path : String) {state : FileState} (unreadable : state.Unreadable) :
    ∃ message, readLayer toml yaml json path state = .error (.io message (some path) none) := by
  cases state with
  | missing => cases unreadable
  | unreadable reason => exact ⟨_, rfl⟩
  | bytes content =>
    simp only [FileState.Unreadable] at unreadable
    exact ⟨"Failed to read config file: stream did not contain valid UTF-8",
      by simp only [readLayer, unreadable]⟩

/-- A file whose text does not parse in the format its name selects is a serialization
fault whose context names the file. -/
theorem readLayer_unparsable (path : String) {content : ByteArray} {text e : String}
    (decoded : String.fromUTF8? content = some text)
    (unparsed : (formatFor toml yaml json path).parse Overlay.shape text = .error e) :
    readLayer toml yaml json path (.bytes content) =
      .error (.serialization e (formatFor toml yaml json path).name
        (some ("Reading configuration from '" ++ path ++ "'"))) := by
  simp only [readLayer, decoded, unparsed]
  rfl

/-- Sources that can each be read can be read together. -/
theorem mapM_layers_ok {sources : List Source}
    (readable : ∀ s ∈ sources, ∃ ls, s.layers toml yaml json = .ok ls) :
    ∃ lss, sources.mapM (Source.layers toml yaml json) = .ok lss := by
  induction sources with
  | nil => exact ⟨[], rfl⟩
  | cons s rest ih =>
    obtain ⟨ls, read⟩ := readable s List.mem_cons_self
    obtain ⟨lss, readRest⟩ := ih fun t mem => readable t (List.mem_cons_of_mem s mem)
    refine ⟨ls :: lss, ?_⟩
    rw [List.mapM_cons, read, readRest]
    rfl

/-- The first file that cannot be read or parsed decides the fault, whatever comes after it,
`defaults` included. -/
theorem loadConfig_first_fault (pre post : List Source) (path : String) (state : FileState)
    {f : Fault} (readable : ∀ s ∈ pre, ∃ ls, s.layers toml yaml json = .ok ls)
    (fails : readLayer toml yaml json path state = .error f) :
    loadConfig toml yaml json (pre ++ .file path state :: post) = .error f := by
  obtain ⟨lss, readPre⟩ := mapM_layers_ok toml yaml json readable
  have stops :
      (pre ++ .file path state :: post).mapM (Source.layers toml yaml json) = .error f := by
    rw [List.mapM_append, readPre, List.mapM_cons]
    simp only [Source.layers, fails]
    rfl
  rw [loadConfig_eq, stops]
  rfl

/-! ## What does not matter -/

/-- A file that does not exist contributes nothing. -/
theorem loadConfig_missing (pre post : List Source) (path : String) :
    loadConfig toml yaml json (pre ++ .file path .missing :: post) =
      loadConfig toml yaml json (pre ++ post) := by
  have nothing (c : Config) : loadStep toml yaml json c (.file path .missing) = pure c := rfl
  simp only [loadConfig_eq_foldlM, List.foldlM_append, List.foldlM_cons, nothing, pure_bind]

/-- The order in which a variable map lists its variables does not matter when no name is
listed twice. -/
theorem loadConfig_vars_perm (pre post : List Source) {entries entries' : List (String × String)}
    (reordered : entries.Perm entries') (distinct : (entries.map Prod.fst).Nodup) :
    loadConfig toml yaml json (pre ++ .vars entries :: post) =
      loadConfig toml yaml json (pre ++ .vars entries' :: post) := by
  have same (c : Config) :
      loadStep toml yaml json c (.vars entries) = loadStep toml yaml json c (.vars entries') :=
    congrArg Except.ok (foldl_applyVariable_perm reordered distinct c)
  simp only [loadConfig_eq_foldlM, List.foldlM_append, List.foldlM_cons, same]

end Loading

/-- Loading is a fold in which the last layer wins and owners accumulate. Every source is read
in order, and the first file that cannot be read or parsed decides the fault, whatever comes
after it: an IO fault with its path when its bytes cannot be read as text, a serialization
fault whose context names it when its text does not parse. When every file is read, the
layers of the sources after the last `defaults` give the configuration (`Config.ofLayers`:
each field the value of the last layer that sets it, or its default; the owners in order,
each once), returned when it passes validation. The order of a variable map that names each
variable once does not matter, and a file that does not exist contributes nothing. -/
theorem loadConfig_last_layer_wins (toml yaml json : FileFormat) :
    (∀ sources, loadConfig toml yaml json sources = (do
      let _ ← sources.mapM (Source.layers toml yaml json)
      let lss ← (afterReset sources).mapM (Source.layers toml yaml json)
      let c := Config.ofLayers lss.flatten
      c.validate
      pure c)) ∧
    (∀ pre post path (state : FileState),
      (∀ s ∈ pre, ∃ ls, s.layers toml yaml json = .ok ls) → state.Unreadable →
      ∃ message, loadConfig toml yaml json (pre ++ .file path state :: post) =
        .error (.io message (some path) none)) ∧
    (∀ pre post path content text e, (∀ s ∈ pre, ∃ ls, s.layers toml yaml json = .ok ls) →
      String.fromUTF8? content = some text →
      (formatFor toml yaml json path).parse Overlay.shape text = .error e →
      loadConfig toml yaml json (pre ++ .file path (.bytes content) :: post) =
        .error (.serialization e (formatFor toml yaml json path).name
          (some ("Reading configuration from '" ++ path ++ "'")))) ∧
    (∀ pre post (entries entries' : List (String × String)), entries.Perm entries' →
      (entries.map Prod.fst).Nodup →
      loadConfig toml yaml json (pre ++ .vars entries :: post) =
        loadConfig toml yaml json (pre ++ .vars entries' :: post)) ∧
    (∀ pre post path, loadConfig toml yaml json (pre ++ .file path .missing :: post) =
      loadConfig toml yaml json (pre ++ post)) := by
  refine ⟨loadConfig_eq toml yaml json, ?_, ?_, fun pre post _ _ reordered distinct =>
    loadConfig_vars_perm toml yaml json pre post reordered distinct,
    loadConfig_missing toml yaml json⟩
  · intro pre post path state readable unreadable
    obtain ⟨message, fails⟩ := readLayer_unreadable toml yaml json path unreadable
    exact ⟨message, loadConfig_first_fault toml yaml json pre post path state readable fails⟩
  · intro pre post path content text e readable decoded unparsed
    exact loadConfig_first_fault toml yaml json pre post path _ readable
      (readLayer_unparsable toml yaml json path decoded unparsed)

/-- A file that does not parse stops the loading before a later file that cannot be read is
reached: the fault is the first file's serialization fault, not the later file's IO fault. -/
theorem unparsable_before_unreadable :
    (FileState.bytes ⟨#[0xff, 0xfe]⟩).Unreadable ∧
      ∃ e format, loadConfig tomlFormat yamlFormat jsonFormat
          [.file "a.json" (.bytes "\x7b".toUTF8), .file "b.toml" (.bytes ⟨#[0xff, 0xfe]⟩)] =
        .error (.serialization e format (some "Reading configuration from 'a.json'")) := by
  have unreadable : String.fromUTF8? ⟨#[0xff, 0xfe]⟩ = none := by decide +kernel
  have decoded : String.fromUTF8? "\x7b".toUTF8 = some "\x7b" := by decide +kernel
  have rejected (format : FileFormat) (fails : (format.parse Overlay.shape "\x7b").toBool = false) :
      ∃ e, format.parse Overlay.shape "\x7b" = .error e := by
    cases parsed : format.parse Overlay.shape "\x7b" with
    | error e => exact ⟨e, rfl⟩
    | ok d =>
      rw [parsed] at fails
      cases fails
  obtain ⟨e, unparsed⟩ : ∃ e, (formatFor tomlFormat yamlFormat jsonFormat "a.json").parse
      Overlay.shape "\x7b" = .error e := by
    rcases formatFor_cases tomlFormat yamlFormat jsonFormat "a.json" with
      picked | picked | picked <;> rw [picked] <;> exact rejected _ (by decide +kernel)
  exact ⟨unreadable, e, _, loadConfig_first_fault tomlFormat yamlFormat jsonFormat [] _ "a.json" _
    (by simp) (readLayer_unparsable tomlFormat yamlFormat jsonFormat "a.json" decoded unparsed)⟩

end ChatBot
