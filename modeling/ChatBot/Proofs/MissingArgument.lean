import ChatBot.Proofs.Extension

/-!
# Reading fails only at a required parameter

Reading arguments fails in one way only. The walk over the positional parameters reaches
every one of them up to and including the first text parameter, each at the position the
earlier ones left; a parameter that reads nothing there is passed over when it is optional,
and when it is required the reading fails with `Fault.missingArgument`, naming that
parameter and carrying the whole text as it was given. So:

* the fault names the first required parameter, at or before the first text one, that
  cannot read at its position, and no other fault is possible (`read_eq_error_iff`);
* when every parameter the walk reaches is optional, reading succeeds on every text, and
  on the empty text it stores nothing (`read_ok_of_optional`, `read_empty_of_optional`);
  parameters after the first text one are never reached, whether required or not.
-/

namespace ChatBot

open Text

namespace Reading

variable {ctx : Context}

/-- An entry that read a value, or is optional, lets the replay go on to the next one,
with what it stored. -/
theorem replay_cons_of_passes (input : String) (acc : Bindings) {first : Taken} (ts : List Taken)
    (passes : first.value = none → first.param.required = false) :
    ∃ acc', replay input acc (first :: ts) = replay input acc' ts := by
  cases read : first.value with
  | some v => exact ⟨acc.insert first.param.name v, by simp [replay, read]⟩
  | none => exact ⟨acc, by simp [replay, read, passes read]⟩

/-- A replay fails exactly at an entry that read nothing for a required parameter, after
entries that each read or were optional; the fault names that parameter and the whole
text. -/
theorem replay_eq_error_iff (input : String) (acc : Bindings) (ts : List Taken) (f : Fault) :
    replay input acc ts = .error f ↔ ∃ before t after, ts = before ++ t :: after ∧
      (∀ e ∈ before, e.value = none → e.param.required = false) ∧
      t.value = none ∧ t.param.required = true ∧ f = .missingArgument t.param.name input := by
  induction ts generalizing acc with
  | nil =>
    simp only [replay, reduceCtorEq, false_iff, not_exists, not_and]
    intro before t after split
    simp at split
  | cons first ts ih =>
    constructor
    · intro failed
      by_cases stops : first.value = none ∧ first.param.required = true
      · obtain ⟨read, needed⟩ := stops
        simp only [replay, read, needed, if_true, Except.error.injEq] at failed
        exact ⟨[], first, ts, rfl, by simp, read, needed, failed.symm⟩
      · have passes : first.value = none → first.param.required = false := by simpa using stops
        obtain ⟨acc', same⟩ := replay_cons_of_passes input acc ts passes
        rw [same] at failed
        obtain ⟨before, t, after, rfl, optional, missing, needed, rfl⟩ := (ih acc').mp failed
        exact ⟨first :: before, t, after, rfl, List.forall_mem_cons.mpr ⟨passes, optional⟩,
          missing, needed, rfl⟩
    · rintro ⟨before, t, after, split, optional, missing, needed, rfl⟩
      cases before with
      | nil =>
        obtain ⟨rfl, rfl⟩ := List.cons.inj split
        simp [replay, missing, needed]
      | cons _ before =>
        rw [List.cons_append, List.cons.injEq] at split
        obtain ⟨rfl, rfl⟩ := split
        obtain ⟨passes, optional'⟩ := List.forall_mem_cons.mp optional
        obtain ⟨acc', same⟩ := replay_cons_of_passes input acc (before ++ t :: after) passes
        rw [same]
        exact (ih acc').mpr ⟨before, t, after, rfl, optional', missing, needed, rfl⟩

/-- Each entry of a walk's trace holds what its parameter reads from the words at the
entry's position: the walk reaches each parameter with the words from there on. -/
theorem trace_value (tokens : List String) (start : Nat) (ps : List Parameter) {e : Taken}
    (traced : e ∈ trace ctx start ps (tokens.drop start)) :
    e.value = (take ctx e.param (tokens.drop e.start)).map Prod.fst := by
  induction ps generalizing start with
  | nil => simp [trace] at traced
  | cons p ps ih =>
    cases read : take ctx p (tokens.drop start) with
    | none =>
      simp only [trace, read, List.mem_cons] at traced
      rcases traced with rfl | later
      · simp [read]
      · split at later
        · simp at later
        · exact ih start later
    | some taken =>
      obtain ⟨v, n⟩ := taken
      simp only [trace, read, List.mem_cons] at traced
      rcases traced with rfl | later
      · simp [read]
      · split at later
        · simp at later
        · rw [List.drop_drop] at later
          exact ih (start + n) later

/-- An entry of a walk's trace read nothing exactly when its parameter reads nothing from the
words at the entry's position. -/
theorem value_eq_none_iff (tokens : List String) (ps : List Parameter) {e : Taken}
    (traced : e ∈ trace ctx 0 ps tokens) :
    e.value = none ↔ take ctx e.param (tokens.drop e.start) = none := by
  rw [trace_value tokens 0 ps traced, Option.map_eq_none_iff]

/-- With no words, a walk whose reached parameters are all optional stores nothing. -/
theorem replay_trace_nil (input : String) (acc : Bindings) (start : Nat) (ps : List Parameter)
    (optional : ∀ p ∈ throughText ps, p.required = false) :
    replay input acc (trace ctx start ps []) = .ok acc := by
  induction ps with
  | nil => rfl
  | cons p ps ih =>
    have skipped : p.required = false := optional p (by simp [throughText])
    by_cases text : p.kind = .text
    · simp [trace, take_nil, text, replay, skipped]
    · have rest : ∀ q ∈ throughText ps, q.required = false :=
        fun q mem => optional q (by simp [throughText, text, mem])
      simp [trace, take_nil, text, replay, skipped, ih rest]

/-- Setting flags from no words sets none. -/
theorem pullFlags_nil (flags : List Parameter) (b : Bindings) : pullFlags flags [] b = ([], b) := by
  induction flags with
  | nil => rfl
  | cons f fs ih => simp [pullFlags_cons, ih]

end Reading

namespace Signature

open Reading

/-- Reading fails exactly at the first required positional parameter, at or before the
first text one, that reads nothing at the position the walk reached, every earlier
parameter having read or being optional; the fault is a missing argument naming it, with
the text as given. -/
theorem read_eq_error_iff (g : Signature) (ctx : Context) (input : String) (f : Fault) :
    g.read ctx input = .error f ↔
      ∃ before t after,
        trace ctx 0 g.positional (g.positionalWords input) = before ++ t :: after ∧
        (∀ e ∈ before, e.value = none → e.param.required = false) ∧
        t.param ∈ throughText g.positional ∧ t.param.required = true ∧
        take ctx t.param ((g.positionalWords input).drop t.start) = none ∧
        f = .missingArgument t.param.name input := by
  rw [read_eq_replay, replay_eq_error_iff]
  constructor
  · rintro ⟨before, t, after, split, optional, missing, needed, rfl⟩
    have traced : t ∈ trace ctx 0 g.positional (g.positionalWords input) := by simp [split]
    exact ⟨before, t, after, split, optional, param_mem_throughText traced, needed,
      (value_eq_none_iff _ _ traced).mp missing, rfl⟩
  · rintro ⟨before, t, after, split, optional, -, needed, unread, rfl⟩
    have traced : t ∈ trace ctx 0 g.positional (g.positionalWords input) := by simp [split]
    exact ⟨before, t, after, split, optional, (value_eq_none_iff _ _ traced).mpr unread, needed,
      rfl⟩

/-- When every parameter the walk reaches is optional, reading succeeds on every text. -/
theorem read_ok_of_optional {g : Signature} (ctx : Context) (input : String)
    (optional : ∀ p ∈ throughText g.positional, p.required = false) :
    ∃ r, g.read ctx input = .ok r := by
  rw [read_eq_replay, replay_ok_iff]
  intro t traced _
  exact optional t.param (param_mem_throughText traced)

/-- When every parameter the walk reaches is optional, the empty text reads as no values. -/
theorem read_empty_of_optional {g : Signature} (ctx : Context)
    (optional : ∀ p ∈ throughText g.positional, p.required = false) :
    g.read ctx "" = .ok Bindings.empty := by
  have nothing : g.positionalWords "" = [] := rfl
  rw [read_eq_replay, nothing]
  have unset : (pullFlags g.flags (words "") Bindings.empty).2 = Bindings.empty := by
    rw [show words "" = [] from rfl, pullFlags_nil]
  rw [unset]
  exact replay_trace_nil "" _ 0 _ optional

/-- Reading fails in one way only. For every signature, text, resolver and registry, a
reading fails exactly when the walk reaches a required positional parameter, at or before
the first text parameter, that reads nothing from the words at its position, every earlier
parameter having read or being optional; the fault is then a missing argument that names
that parameter and carries the text exactly as given. Hence, when every parameter up to
the first text one is optional, reading succeeds on every text, and the empty text reads
as no values; a parameter after the first text one never causes a failure. -/
theorem read_fails_only_for_required (g : Signature) (ctx : Context) :
    (∀ input f, g.read ctx input = .error f ↔
      ∃ before t after,
        trace ctx 0 g.positional (g.positionalWords input) = before ++ t :: after ∧
        (∀ e ∈ before, e.value = none → e.param.required = false) ∧
        t.param ∈ throughText g.positional ∧ t.param.required = true ∧
        take ctx t.param ((g.positionalWords input).drop t.start) = none ∧
        f = .missingArgument t.param.name input) ∧
    ((∀ p ∈ throughText g.positional, p.required = false) →
      (∀ input, ∃ r, g.read ctx input = .ok r) ∧ g.read ctx "" = .ok Bindings.empty) :=
  ⟨read_eq_error_iff g ctx, fun optional =>
    ⟨fun input => read_ok_of_optional ctx input optional, read_empty_of_optional ctx optional⟩⟩

/-- The optional number passes over `hello`, the required user cannot read it, and the fault
carries the text as given; `<never>`, after the text parameter, plays no part. -/
example : (compile "[n:digit] <user> [rest:text] <never>").read {} "  hello  world " =
    .error (.missingArgument "user" "  hello  world ") := by
  rfl

end Signature

end ChatBot
