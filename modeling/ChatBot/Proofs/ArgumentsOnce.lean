import ChatBot.Dispatch.Event

/-!
# Arguments are read once

An event reads its arguments when its handler first asks for them and keeps the first
successful reading. Take any sequence of requests for the arguments, with the shared registry
changed in between, and the reading each request for the arguments would get on its own,
against the registry as it is then. Up to and including the first successful reading the
answers are those readings; every later request is answered with that success, whatever the
registry has become, and the argument text is not read again (`arguments_read_once`). A
failed reading is returned and not kept.

A running handler's requests for its arguments are answered by `Event.ask` on the cell that
its world holds (`World.cell`), against the shared registry as the handler has left it. Once
a reading is kept, every request of the run leaves it kept and reads nothing
(`Action.run_of_kept`), so the rest of the run is answered from it.
-/

namespace ChatBot

/-- The registry as it stands at each request for the arguments, in order. -/
def EventRequest.registriesAsked : Registry Unit → List EventRequest → List (Registry Unit)
  | _, [] => []
  | registry, .arguments :: rest => registry :: registriesAsked registry rest
  | registry, .editRegistry change :: rest => registriesAsked (change registry) rest

namespace Event

variable (e : Event)

/-! ## One request -/

/-- Kept arguments answer at once, and nothing changes. -/
theorem ask_of_kept {cell : ArgumentCell} {b : Bindings} (kept : cell.kept = some b) :
    e.ask cell = (.ok b, cell) := by
  simp [ask, kept]

/-- With nothing kept, a failed reading is returned and counted, and not kept. -/
theorem ask_of_error {cell : ArgumentCell} {f : Fault} (empty : cell.kept = none)
    (failed : e.readAgainst cell.registry = .error f) :
    e.ask cell = (.error f, { cell with readings := cell.readings + 1 }) := by
  simp [ask, empty, failed]

/-- With nothing kept, a successful reading is returned, counted and kept. -/
theorem ask_of_ok {cell : ArgumentCell} {b : Bindings} (empty : cell.kept = none)
    (read : e.readAgainst cell.registry = .ok b) :
    e.ask cell = (.ok b, { cell with kept := some b, readings := cell.readings + 1 }) := by
  simp [ask, empty, read]

/-- A request for the arguments is answered by `ask`, and the rest is served from the cell
it leaves. -/
theorem serveAll_arguments (cell : ArgumentCell) (rest : List EventRequest) :
    e.serveAll cell (.arguments :: rest) =
      ((e.ask cell).1 :: (e.serveAll (e.ask cell).2 rest).1, (e.serveAll (e.ask cell).2 rest).2) :=
  rfl

/-- A change of the registry answers nothing; the rest is served against the changed
registry. -/
theorem serveAll_editRegistry (cell : ArgumentCell) (change : Registry Unit → Registry Unit)
    (rest : List EventRequest) :
    e.serveAll cell (.editRegistry change :: rest) =
      e.serveAll { cell with registry := change cell.registry } rest :=
  rfl

/-! ## Runs of requests -/

/-- From kept arguments every request for them is answered with them, whatever becomes of
the registry, and the text is not read again. -/
theorem serveAll_of_kept {b : Bindings} (cell : ArgumentCell) (kept : cell.kept = some b)
    (requests : List EventRequest) :
    (e.serveAll cell requests).1 =
        (EventRequest.registriesAsked cell.registry requests).map (fun _ => .ok b) ∧
      (e.serveAll cell requests).2.kept = some b ∧
      (e.serveAll cell requests).2.readings = cell.readings := by
  induction requests generalizing cell with
  | nil => exact ⟨rfl, kept, rfl⟩
  | cons request rest ih =>
    cases request with
    | arguments =>
      obtain ⟨answers, keptAfter, readingsAfter⟩ := ih cell kept
      rw [serveAll_arguments, ask_of_kept e kept]
      exact ⟨by simp [answers, EventRequest.registriesAsked], keptAfter, readingsAfter⟩
    | editRegistry change =>
      rw [serveAll_editRegistry]
      exact ih { cell with registry := change cell.registry } kept

/-- While every reading fails, each request for the arguments is answered with its own
reading, nothing is kept, and each one reads the text. -/
theorem serveAll_of_failing (cell : ArgumentCell) (empty : cell.kept = none)
    (requests : List EventRequest)
    (failing : ∀ a ∈ (EventRequest.registriesAsked cell.registry requests).map e.readAgainst,
      ∃ f, a = .error f) :
    (e.serveAll cell requests).1 =
        (EventRequest.registriesAsked cell.registry requests).map e.readAgainst ∧
      (e.serveAll cell requests).2.kept = none ∧
      (e.serveAll cell requests).2.readings =
        cell.readings + (EventRequest.registriesAsked cell.registry requests).length := by
  induction requests generalizing cell with
  | nil => exact ⟨rfl, empty, rfl⟩
  | cons request rest ih =>
    cases request with
    | arguments =>
      obtain ⟨f, failed⟩ := failing _ List.mem_cons_self
      obtain ⟨answers, emptyAfter, readingsAfter⟩ :=
        ih { cell with readings := cell.readings + 1 } empty
          fun a mem => failing a (List.mem_cons_of_mem _ mem)
      rw [serveAll_arguments, ask_of_error e empty failed]
      refine ⟨?_, emptyAfter, ?_⟩
      · simp [answers, EventRequest.registriesAsked, failed]
      · simp only [readingsAfter, EventRequest.registriesAsked, List.length_cons]
        omega
    | editRegistry change =>
      rw [serveAll_editRegistry]
      exact ih { cell with registry := change cell.registry } empty failing

/-- Up to the first successful reading each request for the arguments is answered with its
own reading; the success is kept and answers every later request, and the text has been read
once per request up to it. -/
theorem serveAll_of_first_success (cell : ArgumentCell) (empty : cell.kept = none)
    (requests : List EventRequest) {failed later : List (Except Fault Bindings)} {b : Bindings}
    (split : (EventRequest.registriesAsked cell.registry requests).map e.readAgainst =
      failed ++ .ok b :: later)
    (failing : ∀ a ∈ failed, ∃ f, a = .error f) :
    (e.serveAll cell requests).1 = failed ++ .ok b :: later.map (fun _ => .ok b) ∧
      (e.serveAll cell requests).2.kept = some b ∧
      (e.serveAll cell requests).2.readings = cell.readings + failed.length + 1 := by
  induction requests generalizing cell failed with
  | nil => simp [EventRequest.registriesAsked] at split
  | cons request rest ih =>
    cases request with
    | arguments =>
      rw [serveAll_arguments]
      cases failed with
      | nil =>
        simp only [EventRequest.registriesAsked, List.map_cons, List.nil_append,
          List.cons.injEq] at split
        obtain ⟨read, rfl⟩ := split
        rw [ask_of_ok e empty read]
        obtain ⟨answers, keptAfter, readingsAfter⟩ :=
          serveAll_of_kept e { cell with kept := some b, readings := cell.readings + 1 } rfl rest
        have constant : (((EventRequest.registriesAsked cell.registry rest).map e.readAgainst).map
            fun _ => (.ok b : Except Fault Bindings)) =
              (EventRequest.registriesAsked cell.registry rest).map fun _ => .ok b := by
          rw [List.map_map]
          rfl
        exact ⟨by rw [answers, constant]; rfl, keptAfter, by simp [readingsAfter]⟩
      | cons a failedRest =>
        simp only [EventRequest.registriesAsked, List.map_cons, List.cons_append,
          List.cons.injEq] at split
        obtain ⟨read, restSplit⟩ := split
        obtain ⟨f, rfl⟩ := failing a List.mem_cons_self
        rw [ask_of_error e empty read]
        obtain ⟨answers, keptAfter, readingsAfter⟩ :=
          ih { cell with readings := cell.readings + 1 } empty restSplit
            fun a mem => failing a (List.mem_cons_of_mem _ mem)
        refine ⟨by simp [answers], keptAfter, ?_⟩
        simp only [readingsAfter, List.length_cons]
        omega
    | editRegistry change =>
      rw [serveAll_editRegistry]
      exact ih { cell with registry := change cell.registry } empty split failing

/-- Arguments are read once. Take an event, the shared registry when its handler starts, and
any sequence of requests for the arguments and changes of the registry, and let `fresh` be
the readings each request for the arguments would get on its own, against the registry as it
is then. If every reading fails, each request is answered with its own reading, nothing is
kept, and each one reads the text. Otherwise, split `fresh` at its first success: the
requests up to and including it are answered with their own readings, every later one with
that success whatever the registry has become, the success is kept, and the text has been
read once per request up to it and never after. -/
theorem arguments_read_once (e : Event) (registry : Registry Unit)
    (requests : List EventRequest) :
    let fresh := (EventRequest.registriesAsked registry requests).map e.readAgainst
    let served := e.serveAll { registry } requests
    ((∀ a ∈ fresh, ∃ f, a = .error f) →
        served.1 = fresh ∧ served.2.kept = none ∧ served.2.readings = fresh.length) ∧
      ∀ failed b later, fresh = failed ++ .ok b :: later → (∀ a ∈ failed, ∃ f, a = .error f) →
        served.1 = failed ++ .ok b :: later.map (fun _ => .ok b) ∧ served.2.kept = some b ∧
          served.2.readings = failed.length + 1 := by
  intro fresh served
  refine ⟨fun failing => ?_, fun failed b later split failing => ?_⟩
  · obtain ⟨answers, empty, readings⟩ := serveAll_of_failing e { registry } rfl requests failing
    exact ⟨answers, empty, by simp [served, readings, fresh]⟩
  · obtain ⟨answers, kept, readings⟩ :=
      serveAll_of_first_success e { registry } rfl requests split failing
    exact ⟨answers, kept, by simp [served, readings]⟩

end Event

/-! ## A running handler -/

namespace World

variable {σ η : Type}

/-- Once a reading is kept, a request leaves it kept and reads nothing; a request for the
arguments is answered with it. -/
theorem answer_of_kept (e : Event) {w : World σ η} {b : Bindings} (kept : w.kept = some b)
    (r : Request σ η) : (w.answer e r).2.kept = some b ∧ (w.answer e r).2.readings = w.readings := by
  cases r with
  | arguments =>
    have answered : e.ask w.cell = (.ok b, w.cell) := e.ask_of_kept kept
    simp only [answer, answered]
    exact ⟨kept, rfl⟩
  | reply content => exact ⟨kept, rfl⟩
  | settingsFor guild => exact ⟨kept, rfl⟩
  | editSettings guild f => exact ⟨kept, rfl⟩
  | registry => exact ⟨kept, rfl⟩
  | editRegistry change => exact ⟨kept, rfl⟩
  | memory => exact ⟨kept, rfl⟩
  | remember f => exact ⟨kept, rfl⟩

end World

/-- Once a reading is kept, a run keeps it and never reads the argument text again, however
the registry changes and however the run ends. -/
theorem Action.run_of_kept {σ η ε α : Type} (e : Event) (x : Action σ η ε α) {w : World σ η}
    {b : Bindings} (kept : w.kept = some b) :
    (x.run e w).2.kept = some b ∧ (x.run e w).2.readings = w.readings := by
  induction x generalizing w with
  | done a => exact ⟨kept, rfl⟩
  | fail f => exact ⟨kept, rfl⟩
  | crash p => exact ⟨kept, rfl⟩
  | ask r next ih =>
    obtain ⟨keptAfter, readingsAfter⟩ := World.answer_of_kept e kept r
    obtain ⟨keptLast, readingsLast⟩ := ih (w.answer e r).1 keptAfter
    exact ⟨keptLast, readingsLast.trans readingsAfter⟩

end ChatBot
