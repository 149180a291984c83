import ChatBot.Argument.Read

/-!
# The positional walk as a trace

Reading the positional parameters does two things at once: each parameter takes some
words from the front of what is left, and what it took is stored, passed over, or turned
into a fault when the parameter is required. `trace` records the first alone: one entry
per parameter the walk reaches (all of them up to and including the first text
parameter), with the position of its first word, how many words it used and what it
read. `replay` does the second. The walk is exactly the replay of its trace, so what a
walk consumes is a question about the trace alone, and what it stores follows from two
replay laws:

* a replay succeeds exactly when every parameter that read nothing is optional, whatever
  was stored before and whatever the reported text;
* when the traced names are distinct, the value stored under a traced name is what that
  parameter read, and every other name keeps the value it had before.
-/

namespace ChatBot

namespace Bindings

/-- Dropping the entries of one name leaves the lookup of every other name alone. -/
theorem lookup_filter_ne (entries : List (String × Value)) (name key : String) :
    (entries.filter (fun e => e.1 != name)).lookup key =
      if key = name then none else entries.lookup key := by
  induction entries with
  | nil => simp
  | cons entry rest ih =>
    obtain ⟨k, w⟩ := entry
    by_cases asked : key = k
    · subst asked
      by_cases kept : key = name
      · subst kept
        simp [ih]
      · simp [kept]
    · have differ : (key == k) = false := by simpa using asked
      by_cases kept : k = name
      · subst kept
        simp [ih, List.lookup_cons, differ]
      · simp [kept, List.lookup_cons, differ, ih]

/-- Storing under `name` replaces that name's value and leaves every other name alone. -/
theorem lookup_insert (b : Bindings) (name key : String) (v : Value) :
    (b.insert name v).entries.lookup key = if key = name then some v else b.entries.lookup key := by
  simp only [insert, List.lookup_append, lookup_filter_ne]
  by_cases asked : key = name
  · simp [asked]
  · have differ : (key == name) = false := by simpa using asked
    simp [asked, List.lookup_cons, differ]

/-- A value bound to a name is found under it. -/
@[simp] theorem lookup_insert_self (b : Bindings) (name : String) (v : Value) :
    (b.insert name v).entries.lookup name = some v := by
  simp [lookup_insert]

/-- Binding a name leaves the values of every other name. -/
@[simp] theorem lookup_insert_of_ne (b : Bindings) {name key : String} (v : Value)
    (differ : key ≠ name) : (b.insert name v).entries.lookup key = b.entries.lookup key := by
  simp [lookup_insert, differ]

end Bindings

namespace Reading

/-- What one positional parameter took in a walk: the position of its first word, the
number of words it used and the value it read. A parameter that read nothing used no
word. -/
structure Taken where
  param : Parameter
  start : Nat
  used : Nat
  value : Option Value

/-- The parameters a walk reaches: every one up to and including the first text
parameter, since text ends the walk whether it reads or not. -/
def throughText : List Parameter → List Parameter
  | [] => []
  | p :: ps => p :: if p.kind = .text then [] else throughText ps

/-- What each parameter a walk reaches takes from `tokens`, whose first word stands at
position `start`. A parameter that reads nothing leaves the words to the next one. -/
def trace (ctx : Context) (start : Nat) : List Parameter → List String → List Taken
  | [], _ => []
  | p :: ps, tokens =>
    match take ctx p tokens with
    | some (v, n) =>
      ⟨p, start, n, some v⟩ ::
        if p.kind = .text then [] else trace ctx (start + n) ps (tokens.drop n)
    | none => ⟨p, start, 0, none⟩ :: if p.kind = .text then [] else trace ctx start ps tokens

/-- Stores what a trace read, in order. A required parameter that read nothing is a fault
naming it and the whole text. -/
def replay (input : String) : Bindings → List Taken → Except Fault Bindings
  | acc, [] => .ok acc
  | acc, t :: ts =>
    match t.value with
    | some v => replay input (acc.insert t.param.name v) ts
    | none =>
      if t.param.required then .error (.missingArgument t.param.name input)
      else replay input acc ts

variable {ctx : Context}

/-- The walk is the replay of its trace, wherever the trace starts counting. -/
theorem walk_eq_replay (input : String) (ps : List Parameter) (tokens : List String)
    (acc : Bindings) (start : Nat) :
    walk ctx input ps tokens acc = replay input acc (trace ctx start ps tokens) := by
  induction ps generalizing tokens acc start with
  | nil => rfl
  | cons p ps ih =>
    by_cases text : p.kind = .text
    · cases read : take ctx p tokens with
      | none => simp [walk, trace, replay, read, text]
      | some taken => simp [walk, trace, replay, read, text]
    · cases read : take ctx p tokens with
      | none =>
        simp only [walk, trace, replay, read, text, if_false]
        rw [ih tokens acc start]
      | some taken =>
        simp only [walk, trace, replay, read, text, if_false]
        exact ih _ _ _

/-- A trace has one entry per parameter the walk reaches, in order, whatever the words. -/
@[simp] theorem trace_params (start : Nat) (ps : List Parameter) (tokens : List String) :
    (trace ctx start ps tokens).map Taken.param = throughText ps := by
  induction ps generalizing start tokens with
  | nil => rfl
  | cons p ps ih =>
    cases read : take ctx p tokens <;> by_cases text : p.kind = .text <;>
      simp [trace, throughText, read, text, ih]

/-- Every entry of a walk's trace is for a parameter the walk reaches. -/
theorem param_mem_throughText {start : Nat} {ps : List Parameter} {tokens : List String}
    {e : Taken} (traced : e ∈ trace ctx start ps tokens) : e.param ∈ throughText ps := by
  rw [← @trace_params ctx start ps tokens]
  exact List.mem_map_of_mem traced

/-- A trace carries the names of the parameters the walk reaches, in order. -/
theorem trace_names (start : Nat) (ps : List Parameter) (tokens : List String) :
    (trace ctx start ps tokens).map (·.param.name) = (throughText ps).map Parameter.name := by
  rw [← trace_params start ps tokens, List.map_map]
  rfl

/-- The parameters up to the text parameter are a sublist of all of them. -/
theorem throughText_sublist (ps : List Parameter) : (throughText ps).Sublist ps := by
  induction ps with
  | nil => exact List.Sublist.refl []
  | cons p ps ih =>
    by_cases text : p.kind = .text
    · simp [throughText, text]
    · simpa [throughText, text] using ih

/-- A replay succeeds exactly when every parameter that read nothing is optional; what
was stored before and the reported text play no part. -/
theorem replay_ok_iff (input : String) (acc : Bindings) (ts : List Taken) :
    (∃ r, replay input acc ts = .ok r) ↔ ∀ t ∈ ts, t.value = none → t.param.required = false := by
  induction ts generalizing acc with
  | nil => simp [replay]
  | cons t ts ih =>
    cases read : t.value with
    | some v => simp [replay, read, ih]
    | none =>
      cases needed : t.param.required
      · simp [replay, read, needed, ih]
      · simp [replay, read, needed]

/-- Names that no traced parameter carries keep the value they had before the replay. -/
theorem replay_lookup_of_not_mem {input : String} {acc r : Bindings} {ts : List Taken}
    (replayed : replay input acc ts = .ok r) {name : String}
    (untraced : name ∉ ts.map (·.param.name)) : r.entries.lookup name = acc.entries.lookup name := by
  induction ts generalizing acc with
  | nil =>
    simp only [replay, Except.ok.injEq] at replayed
    rw [replayed]
  | cons t ts ih =>
    have other : name ≠ t.param.name := fun same => untraced (by simp [same])
    have rest : name ∉ ts.map (·.param.name) := fun mem => untraced (by simp_all)
    cases read : t.value with
    | some v =>
      simp only [replay, read] at replayed
      rw [ih replayed rest, Bindings.lookup_insert_of_ne _ _ other]
    | none =>
      cases needed : t.param.required
      · simp only [replay, read, needed] at replayed
        exact ih replayed rest
      · simp [replay, read, needed] at replayed

/-- What a replay stores under a name depends on the trace and on what was stored under
that name before, and on nothing else. -/
theorem replay_lookup_congr {input input' : String} {acc acc' r r' : Bindings} {ts : List Taken}
    (replayed : replay input acc ts = .ok r) (replayed' : replay input' acc' ts = .ok r')
    {name : String} (before : acc.entries.lookup name = acc'.entries.lookup name) :
    r.entries.lookup name = r'.entries.lookup name := by
  induction ts generalizing acc acc' with
  | nil =>
    simp only [replay, Except.ok.injEq] at replayed replayed'
    rw [← replayed, ← replayed', before]
  | cons t ts ih =>
    cases read : t.value with
    | some v =>
      simp only [replay, read] at replayed replayed'
      refine ih replayed replayed' ?_
      by_cases same : name = t.param.name
      · simp [same]
      · simp [same, before]
    | none =>
      cases needed : t.param.required
      · simp only [replay, read, needed] at replayed replayed'
        exact ih replayed replayed' before
      · simp [replay, read, needed] at replayed

/-- With distinct traced names, the value stored under a traced parameter's name is what
that parameter read, or the earlier value when it read nothing. -/
theorem replay_lookup_of_mem {input : String} {acc r : Bindings} {ts : List Taken}
    (replayed : replay input acc ts = .ok r) (distinct : (ts.map (·.param.name)).Nodup)
    {t : Taken} (traced : t ∈ ts) :
    r.entries.lookup t.param.name = t.value.or (acc.entries.lookup t.param.name) := by
  induction ts generalizing acc with
  | nil => simp at traced
  | cons first ts ih =>
    simp only [List.map_cons, List.nodup_cons] at distinct
    obtain ⟨fresh, distinct⟩ := distinct
    have step : replay input acc (first :: ts) = .ok r := replayed
    rcases List.mem_cons.mp traced with here | later
    · subst here
      cases read : t.value with
      | some v =>
        simp only [replay, read] at step
        rw [replay_lookup_of_not_mem step fresh]
        simp
      | none =>
        cases needed : t.param.required
        · simp only [replay, read, needed] at step
          simp [replay_lookup_of_not_mem step fresh]
        · simp [replay, read, needed] at step
    · have other : t.param.name ≠ first.param.name := by
        intro same
        exact fresh (same ▸ List.mem_map_of_mem later)
      cases read : first.value with
      | some v =>
        simp only [replay, read] at step
        rw [ih step distinct later, Bindings.lookup_insert_of_ne _ _ other]
      | none =>
        cases needed : first.param.required
        · simp only [replay, read, needed] at step
          exact ih step distinct later
        · simp [replay, read, needed] at step

end Reading

end ChatBot
