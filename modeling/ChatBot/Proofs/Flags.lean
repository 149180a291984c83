import Mathlib.Data.List.Nodup
import ChatBot.Proofs.Walk

/-!
# Flags are read wherever they stand

A flag is set by a marker word `!name`, the name compared after lowercasing, and the
marker is taken out before any positional parameter reads. The flag pass works one
declared flag at a time, each on the words the earlier ones left; since a word marks at
most one name, and the names of a signature are distinct, the result is the same as
taking every marker out at once:

* a flag is stored, as set, exactly when some word marks it, and is absent otherwise;
* the positional parameters see the words with every marker removed, in order, so what
  they read, and whether reading succeeds at all, depends on nothing else. Adding,
  removing or moving markers anywhere changes neither.

Every signature built from parameters has distinct names (`ofParameters_names_nodup`),
which is all the argument needs of it.
-/

namespace ChatBot

open Text

namespace Signature

/-- The words the positional parameters read: every word of `input` except the markers
of declared flags, in order. -/
def positionalWords (g : Signature) (input : String) : List String :=
  (words input).filter fun t => !g.flags.any fun f => Reading.isMarker f.name t

/-- Keeping the first parameter of each name leaves distinct names, none of them among
those already seen. -/
theorem keepFirst_names (seen : List String) (ps : List Parameter) :
    ((keepFirst seen ps).map Parameter.name).Nodup ∧
      ∀ p ∈ keepFirst seen ps, p.name ∉ seen := by
  induction ps generalizing seen with
  | nil => simp [keepFirst]
  | cons p ps ih =>
    by_cases known : seen.contains p.name
    · rw [keepFirst, if_pos known]
      exact ih seen
    · obtain ⟨distinct, unseen⟩ := ih (p.name :: seen)
      have fresh : p.name ∉ seen := by simpa using known
      refine ⟨?_, ?_⟩
      · simp only [keepFirst, known, Bool.false_eq_true, if_false, List.map_cons, List.nodup_cons]
        refine ⟨fun mem => ?_, distinct⟩
        obtain ⟨q, kept, same⟩ := List.mem_map.mp mem
        exact unseen q kept (by simp [same])
      · intro q kept
        simp only [keepFirst, known, Bool.false_eq_true, if_false, List.mem_cons] at kept
        rcases kept with rfl | later
        · exact fresh
        · exact fun mem => unseen q later (List.mem_cons_of_mem _ mem)

/-- Every signature built from parameters, hence every compiled or stored one, has
distinct parameter names. -/
theorem ofParameters_names_nodup (ps : List Parameter) :
    ((ofParameters ps).params.map Parameter.name).Nodup :=
  (keepFirst_names [] _).1

section Distinct

variable {g : Signature} (distinct : (g.params.map Parameter.name).Nodup)
include distinct

/-- The flags have distinct names. -/
theorem flags_names_nodup : (g.flags.map Parameter.name).Nodup :=
  distinct.sublist (List.filter_sublist.map _)

/-- The positional parameters have distinct names. -/
theorem positional_names_nodup : (g.positional.map Parameter.name).Nodup :=
  distinct.sublist (List.filter_sublist.map _)

/-- No positional parameter shares its name with a flag. -/
theorem positional_name_not_flag {p : Parameter} (positional : p ∈ g.positional) :
    p.name ∉ g.flags.map Parameter.name := by
  intro mem
  obtain ⟨f, flag, same⟩ := List.mem_map.mp mem
  have inP : p ∈ g.params := (List.mem_filter.mp positional).1
  have inF : f ∈ g.params := (List.mem_filter.mp flag).1
  have equal : f = p := List.inj_on_of_nodup_map distinct inF inP same
  have notFlag := (List.mem_filter.mp positional).2
  have isFlag := (List.mem_filter.mp flag).2
  subst equal
  simp_all

end Distinct

end Signature

namespace Reading

/-- A word marks the flag `name` exactly when it is `!` followed by a text that lowercases
to `name`. -/
theorem isMarker_iff (name token : String) :
    isMarker name token = true ↔ ∃ m, token = "!" ++ m ∧ lower m = name := by
  constructor
  · intro marked
    unfold isMarker at marked
    split at marked
    · next rest spelled =>
      refine ⟨String.ofList rest, ?_, by simpa using marked⟩
      rw [← String.toList_inj, String.toList_append, spelled, String.toList_ofList]
      simp
    · simp at marked
  · rintro ⟨m, rfl, lowered⟩
    have spelled : ("!" ++ m).toList = '!' :: m.toList := by
      simp
    simp [isMarker, spelled, lowered]

/-- A word marks at most one name. -/
theorem isMarker_unique {a b token : String} (markedA : isMarker a token = true)
    (markedB : isMarker b token = true) : a = b := by
  obtain ⟨m, rfl, lowerA⟩ := (isMarker_iff a token).mp markedA
  obtain ⟨m', same, lowerB⟩ := (isMarker_iff b _).mp markedB
  have : m = m' := by simpa using same
  subst this
  rw [← lowerA, lowerB]

/-- One flag of the pass: its markers are taken out of the words, and the flag is set
when there was one. -/
theorem pullFlags_cons (f : Parameter) (fs : List Parameter) (tokens : List String)
    (b : Bindings) :
    pullFlags (f :: fs) tokens b =
      pullFlags fs (tokens.filter fun t => !isMarker f.name t)
        (if tokens.any (isMarker f.name) then b.insert f.name (.flag true) else b) := by
  simp only [pullFlags, List.foldl_cons]
  congr 1
  by_cases marked : tokens.any (isMarker f.name)
  · have shorter : ((tokens.filter fun t => !isMarker f.name t).length == tokens.length) = false := by
      rw [beq_eq_false_iff_ne, ne_eq, List.length_filter_eq_length_iff]
      simpa using marked
    simp only [shorter, marked, Bool.false_eq_true, if_false, if_true]
  · have kept : (tokens.filter fun t => !isMarker f.name t) = tokens := by
      rw [List.filter_eq_self]
      simpa using marked
    simp only [kept, beq_self_eq_true, marked, Bool.false_eq_true, if_false, if_true]

/-- The flag pass leaves exactly the words that mark no declared flag. -/
theorem pullFlags_fst (flags : List Parameter) (tokens : List String) (b : Bindings) :
    (pullFlags flags tokens b).1 = tokens.filter fun t => !flags.any fun f => isMarker f.name t := by
  induction flags generalizing tokens b with
  | nil => simp [pullFlags]
  | cons f fs ih =>
    rw [pullFlags_cons, ih, List.filter_filter]
    congr 1
    funext t
    simp [Bool.and_comm]

/-- Names that are no flag's keep their value through the flag pass. -/
theorem pullFlags_lookup_of_not_mem (flags : List Parameter) (tokens : List String)
    (b : Bindings) {name : String} (other : name ∉ flags.map Parameter.name) :
    (pullFlags flags tokens b).2.entries.lookup name = b.entries.lookup name := by
  induction flags generalizing tokens b with
  | nil => rfl
  | cons f fs ih =>
    have differ : name ≠ f.name := fun same => other (by simp [same])
    rw [pullFlags_cons, ih _ _ (fun mem => other (List.mem_cons_of_mem _ mem))]
    split <;> simp [differ]

/-- With distinct names, a flag is set by the pass exactly when some word marks it;
taking out the markers of other flags never removes one of its own. -/
theorem pullFlags_lookup_of_mem (flags : List Parameter) (tokens : List String) (b : Bindings)
    (distinct : (flags.map Parameter.name).Nodup) {f : Parameter} (declared : f ∈ flags) :
    (pullFlags flags tokens b).2.entries.lookup f.name =
      if tokens.any (isMarker f.name) then some (.flag true) else b.entries.lookup f.name := by
  induction flags generalizing tokens b with
  | nil => simp at declared
  | cons first fs ih =>
    simp only [List.map_cons, List.nodup_cons] at distinct
    obtain ⟨fresh, distinct⟩ := distinct
    rw [pullFlags_cons]
    rcases List.mem_cons.mp declared with rfl | later
    · rw [pullFlags_lookup_of_not_mem _ _ _ fresh]
      split <;> simp
    · have differ : f.name ≠ first.name := fun same => fresh (same ▸ List.mem_map_of_mem later)
      have survive : ((tokens.filter fun t => !isMarker first.name t).any (isMarker f.name)) =
          tokens.any (isMarker f.name) := by
        rw [Bool.eq_iff_iff, List.any_eq_true, List.any_eq_true]
        constructor
        · rintro ⟨t, mem, marked⟩
          exact ⟨t, (List.mem_filter.mp mem).1, marked⟩
        · rintro ⟨t, mem, marked⟩
          refine ⟨t, List.mem_filter.mpr ⟨mem, ?_⟩, marked⟩
          cases other : isMarker first.name t
          · rfl
          · exact absurd (isMarker_unique marked other) differ
      have unchanged : ∀ c : Bool,
          (if c then b.insert first.name (.flag true) else b).entries.lookup f.name =
            b.entries.lookup f.name := by
        intro c
        cases c <;> simp [differ]
      rw [ih _ _ distinct later, survive, unchanged]

end Reading

namespace Signature

open Reading

/-- Reading is the replay of the positional walk over the words left by the flag pass,
starting from what the flag pass stored. -/
theorem read_eq_replay (g : Signature) (ctx : Context) (input : String) :
    g.read ctx input =
      replay input (pullFlags g.flags (words input) Bindings.empty).2
        (trace ctx 0 g.positional (g.positionalWords input)) := by
  have unfolded : g.read ctx input = walk ctx input g.positional
      (pullFlags g.flags (words input) Bindings.empty).1
      (pullFlags g.flags (words input) Bindings.empty).2 := rfl
  rw [unfolded, walk_eq_replay _ _ _ _ 0, pullFlags_fst]
  rfl

/-- The names a reading's trace stores under are positional names. -/
theorem trace_name_positional {g : Signature} {ctx : Context} {tokens : List String}
    {name : String} (traced : name ∈ (trace ctx 0 g.positional tokens).map (·.param.name)) :
    ∃ p ∈ g.positional, p.name = name := by
  obtain ⟨t, mem, rfl⟩ := List.mem_map.mp traced
  exact ⟨t.param, (throughText_sublist _).subset (param_mem_throughText mem), rfl⟩

/-- A word stays for the positional parameters exactly when it marks no declared flag. -/
theorem mem_positionalWords (g : Signature) (input t : String) :
    t ∈ g.positionalWords input ↔
      t ∈ words input ∧ ¬∃ f ∈ g.flags, ∃ m, t = "!" ++ m ∧ lower m = f.name := by
  simp [positionalWords, isMarker_iff]

/-- Whether reading succeeds depends on the words left for the positional parameters
alone. -/
theorem read_ok_iff_of_positionalWords (g : Signature) (ctx : Context) {input input' : String}
    (same : g.positionalWords input = g.positionalWords input') :
    (∃ r, g.read ctx input = .ok r) ↔ ∃ r', g.read ctx input' = .ok r' := by
  rw [read_eq_replay, read_eq_replay, replay_ok_iff, replay_ok_iff, same]

section Distinct

variable {g : Signature} (distinct : (g.params.map Parameter.name).Nodup)
include distinct

/-- A read flag is set exactly when some word marks it, and absent otherwise. -/
theorem read_lookup_flag {ctx : Context} {input : String} {r : Bindings}
    (read : g.read ctx input = .ok r) {f : Parameter} (declared : f ∈ g.flags) :
    r.entries.lookup f.name =
      if (words input).any (isMarker f.name) then some (.flag true) else none := by
  rw [read_eq_replay] at read
  have untraced : f.name ∉ (trace ctx 0 g.positional (g.positionalWords input)).map
      (·.param.name) := by
    intro traced
    obtain ⟨p, positional, same⟩ := trace_name_positional traced
    exact positional_name_not_flag distinct positional (same ▸ List.mem_map_of_mem declared)
  rw [replay_lookup_of_not_mem read untraced,
    pullFlags_lookup_of_mem _ _ _ (flags_names_nodup distinct) declared]
  rfl

omit distinct in
/-- Names the positional walk never reaches keep what the flag pass stored under them. -/
theorem read_lookup_untraced {ctx : Context} {input : String} {r : Bindings}
    (read : g.read ctx input = .ok r) {name : String}
    (untraced : name ∉ (trace ctx 0 g.positional (g.positionalWords input)).map (·.param.name)) :
    r.entries.lookup name =
      (pullFlags g.flags (words input) Bindings.empty).2.entries.lookup name := by
  rw [read_eq_replay] at read
  exact replay_lookup_of_not_mem read untraced

/-- Under the name of a parameter the positional walk reaches, a reading stores exactly
what that parameter read, and nothing when it read nothing. -/
theorem read_lookup_traced {ctx : Context} {input : String} {r : Bindings}
    (read : g.read ctx input = .ok r) {t : Taken}
    (traced : t ∈ trace ctx 0 g.positional (g.positionalWords input)) :
    r.entries.lookup t.param.name = t.value := by
  rw [read_eq_replay] at read
  have tracedDistinct :
      ((trace ctx 0 g.positional (g.positionalWords input)).map (·.param.name)).Nodup := by
    rw [trace_names]
    exact (positional_names_nodup distinct).sublist ((throughText_sublist _).map _)
  rw [replay_lookup_of_mem read tracedDistinct traced]
  obtain ⟨p, positional, same⟩ := trace_name_positional (List.mem_map_of_mem traced)
  rw [← same, pullFlags_lookup_of_not_mem _ _ _ (positional_name_not_flag distinct positional)]
  simp [Bindings.empty]

/-- What a positional parameter reads depends on the words left for the positional
parameters alone: two texts that agree on them store the same value, or none, under its
name. -/
theorem read_lookup_positional {ctx : Context} {input input' : String} {r r' : Bindings}
    (same : g.positionalWords input = g.positionalWords input')
    (read : g.read ctx input = .ok r) (read' : g.read ctx input' = .ok r')
    {p : Parameter} (positional : p ∈ g.positional) :
    r.entries.lookup p.name = r'.entries.lookup p.name := by
  rw [read_eq_replay] at read read'
  rw [same] at read
  refine replay_lookup_congr read read' ?_
  have notFlag := positional_name_not_flag distinct positional
  rw [pullFlags_lookup_of_not_mem _ _ _ notFlag, pullFlags_lookup_of_not_mem _ _ _ notFlag]

end Distinct

/-- Flags are independent of where their markers stand. In every signature built from
parameters, a flag is stored, and stored as set, exactly when a word `!m` with `m`
lowercasing to its name occurs; otherwise it is absent. The positional parameters read
the words with every such marker removed, and nothing else of the text: a word `!x`
that marks no declared flag stays with them, and two texts whose remaining words agree
both fail or both succeed, with the same positional values. So adding, removing or
moving markers never changes a positional value or the outcome. -/
theorem flags_position_independent (ps : List Parameter) (ctx : Context) :
    let g := ofParameters ps
    (∀ input r, g.read ctx input = .ok r → ∀ f ∈ g.flags,
      (r.entries.lookup f.name = some (.flag true) ↔
        ∃ m, "!" ++ m ∈ words input ∧ lower m = f.name) ∧
      (r.entries.lookup f.name = none ∨ r.entries.lookup f.name = some (.flag true))) ∧
    (∀ input t, t ∈ g.positionalWords input ↔
      t ∈ words input ∧ ¬∃ f ∈ g.flags, ∃ m, t = "!" ++ m ∧ lower m = f.name) ∧
    (∀ input input', g.positionalWords input = g.positionalWords input' →
      ((∃ r, g.read ctx input = .ok r) ↔ ∃ r', g.read ctx input' = .ok r') ∧
      ∀ r r', g.read ctx input = .ok r → g.read ctx input' = .ok r' →
        ∀ p ∈ g.positional, r.entries.lookup p.name = r'.entries.lookup p.name) := by
  intro g
  have distinct := ofParameters_names_nodup ps
  refine ⟨?_, mem_positionalWords g, ?_⟩
  · intro input r read f declared
    have stored := read_lookup_flag distinct read declared
    have marked : (words input).any (isMarker f.name) = true ↔
        ∃ m, "!" ++ m ∈ words input ∧ lower m = f.name := by
      simp only [List.any_eq_true, isMarker_iff]
      constructor
      · rintro ⟨t, mem, m, rfl, lowered⟩
        exact ⟨m, mem, lowered⟩
      · rintro ⟨m, mem, lowered⟩
        exact ⟨_, mem, m, rfl, lowered⟩
    rw [stored, ← marked]
    cases (words input).any (isMarker f.name) <;> simp
  · intro input input' same
    exact ⟨read_ok_iff_of_positionalWords g ctx same,
      fun r r' read read' p positional =>
        read_lookup_positional distinct same read read' positional⟩

/-- A marker in the middle of the text, in capitals, sets its flag. -/
theorem verbose_marker_sets_flag :
    let g := compile "[!verbose] <text>"
    let r : Bindings := ⟨[("verbose", .flag true), ("text", .text "some text")]⟩
    g.read {} "some !VERBOSE text" = .ok r ∧
      (r.entries.lookup "verbose" = some (.flag true) ↔
        ∃ m, "!" ++ m ∈ words "some !VERBOSE text" ∧ lower m = "verbose") := by
  intro g r
  have read : g.read {} "some !VERBOSE text" = .ok r := by rfl
  have declared : (⟨"verbose", .flag, false, false⟩ : Parameter) ∈ g.flags := by decide
  exact ⟨read, ((flags_position_independent _ {}).1 _ r read _ declared).1⟩

end Signature

end ChatBot
