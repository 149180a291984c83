import ChatBot.Proofs.Dispatch
import ChatBot.Proofs.Running

/-!
# Handler failures are reported once

A message that runs a handler hands it an event. The handler's gate runs first and ends in
one of three ways: it admits the event, it declines it, or it crashes; it cannot fail with a
fault. When it admits the event the body runs from the world the gate left, and ends in one
of three ways: it finishes, it stops with a fault, or it crashes, with a text or without
one. The delivery reports a failure for a fault or a crash only, and once: the fault itself,
or the handler fault that names the command's path and describes the crash. A declined
event and a finished body report nothing.

However the handler ends, the dispatcher keeps what it did before it stopped (the guild
settings, the registry and the memory it left) and nothing else of the dispatcher changes:
the owners, the mention prefixes and the default prefix stay as they were. So the next
message is dispatched as if the handler had finished with the same effects.
-/

namespace ChatBot

/-- Forgetting a command's actions keeps its path. -/
@[simp] theorem Command.erase_path {α : Type} (c : Command α) : c.erase.path = c.path := by
  rw [Command.erase.eq_def]

namespace Dispatcher

variable {σ η : Type}

/-- A handler run that ends in `outcome` with world `w` leaves the dispatcher with the
settings, registry and memory of `w`, and reports the replies of `w` and the failures of
`outcome`. -/
theorem runHandler_of_run {d : Dispatcher σ η} {h : Handler σ η} {e : Event} (path : Path)
    {outcome : Except (Stop Fault) Unit} {w : World σ η}
    (ran : (h.perform e).run e
      { settings := d.settings, registry := d.registry, memory := d.memory } = (outcome, w)) :
    d.runHandler h e path =
      ({ d with settings := w.settings, registry := w.registry, memory := w.memory },
        { handled := true, replies := w.replies, failures := failuresOf path outcome }) := by
  unfold runHandler
  rw [ran]

/-- Failure reporting sends every handler failure to the error hook exactly once, and
nothing else. Take a message that runs the handler of key `k` of the resolved command, on
the event the dispatcher builds. The message is handled. The gate runs first, on the
dispatcher's settings, registry and memory. When it declines the event, no failure is
reported; when it crashes, the handler fault under the command's path describes the crash;
either way the dispatcher keeps the settings, registry and memory the gate left. When the
gate admits the event, the body runs from there and its outcome decides the report: nothing
when it finishes, the fault itself when it stops with one, and, when it crashes, the handler
fault under the command's path with the text `handler panicked: ` and the crash's text, or
`handler panicked` alone, and no context. Whichever way the body ends, the dispatcher
afterwards is the one before with the settings, registry and memory the body left, so its
owners and prefixes are unchanged. -/
theorem handler_failure_reported_once {d : Dispatcher σ η} {m : Message}
    {res : Resolution η} {k : η} (runs : d.Runs m res k) :
    let ev : Event :=
      { message := m, command := res.command.erase, label := res.label, args := res.remainder,
        isOwner := d.isOwner m.author, settings := (d.settingsFor m.guild).2,
        resolver := d.resolver }
    let h := d.handlers k
    let before := (d.settingsFor m.guild).1
    let gate := (h.admits ev).run ev
      { settings := before.settings, registry := before.registry, memory := before.memory }
    let body := (h.run ev).run ev gate.2
    let crashReport (p : Option String) : List (Path × Fault) :=
      [(ev.command.path, .handler ev.command.path.render
        (match p with
          | some text => "handler panicked: " ++ text
          | none => "handler panicked") none)]
    (d.onMessage m).2.handled = true ∧
      (gate.1 = .ok false → (d.onMessage m).2.failures = [] ∧
        (d.onMessage m).1 =
          { before with settings := gate.2.settings, registry := gate.2.registry,
                        memory := gate.2.memory }) ∧
      (∀ p, gate.1 = .error (.crash p) → (d.onMessage m).2.failures = crashReport p ∧
        (d.onMessage m).1 =
          { before with settings := gate.2.settings, registry := gate.2.registry,
                        memory := gate.2.memory }) ∧
      (gate.1 = .ok true → body.1 = .ok () → (d.onMessage m).2.failures = []) ∧
      (∀ f, gate.1 = .ok true → body.1 = .error (.fault f) →
        (d.onMessage m).2.failures = [(ev.command.path, f)]) ∧
      (∀ p, gate.1 = .ok true → body.1 = .error (.crash p) →
        (d.onMessage m).2.failures = crashReport p) ∧
      (gate.1 = .ok true → (d.onMessage m).1 =
        { before with settings := body.2.settings, registry := body.2.registry,
                      memory := body.2.memory }) := by
  intro ev h before gate body crashReport
  have dispatched : d.onMessage m = before.runHandler h ev res.command.path :=
    onMessage_of_runs runs
  have path : ev.command.path = res.command.path := Command.erase_path res.command
  have whole {outcome : Except (Stop Empty) Bool} (gated : gate.1 = outcome) :
      (h.admits ev).run ev
        { settings := before.settings, registry := before.registry, memory := before.memory } =
        (outcome, gate.2) :=
    Prod.ext gated rfl
  have crashed {p : Option String} :
      failuresOf res.command.path (.error (.crash p)) = crashReport p := by
    rw [← path]
    cases p <;> rfl
  have admittedRun (admitted : gate.1 = .ok true) :
      (h.perform ev).run ev
        { settings := before.settings, registry := before.registry, memory := before.memory } =
        (body.1, body.2) :=
    h.perform_run_of_admitted ev (whole admitted)
  refine ⟨by rw [dispatched]; rfl, fun declined => ?_, fun p crashedGate => ?_,
    fun admitted finished => ?_, fun f admitted stopped => ?_, fun p admitted crashedBody => ?_,
    fun admitted => ?_⟩
  · rw [dispatched, runHandler_of_run _ (h.perform_run_of_declined ev (whole declined))]
    exact ⟨rfl, rfl⟩
  · rw [dispatched, runHandler_of_run _ (h.perform_run_of_crash ev (whole crashedGate))]
    exact ⟨crashed, rfl⟩
  · rw [dispatched, runHandler_of_run _ (admittedRun admitted), finished]
    rfl
  · rw [dispatched, runHandler_of_run _ (admittedRun admitted), stopped]
    exact congrArg (fun p => [(p, f)]) path.symm
  · rw [dispatched, runHandler_of_run _ (admittedRun admitted), crashedBody]
    exact crashed
  · rw [dispatched, runHandler_of_run _ (admittedRun admitted)]

end Dispatcher

end ChatBot

namespace ChatBot.Dispatcher

/-- A command whose handler crashes with the text `boom`: the message `!explode` runs it, and
the delivery reports one handler fault, under the path `explode`. -/
theorem crashing_handler_reported :
    let h : Handler Unit Unit := { run := fun _ => .crash (some "boom") }
    let c : Command Unit :=
      { name := "explode", aliases := [], description := "", category := none,
        ownerOnly := false, listed := true, signature := ⟨[]⟩, children := [],
        path := Path.root "explode", action := some () }
    let d : Dispatcher Unit Unit := { registry := ⟨[c]⟩, handlers := fun _ => h, memory := () }
    let m : Message := { guild := 1, channel := 1, author := "user", content := "!explode" }
    d.Runs m ⟨c, "explode", ""⟩ () ∧
      (d.onMessage m).2.failures =
        [(Path.root "explode", .handler "explode" "handler panicked: boom" none)] := by
  intro h c d m
  have leaf : c.resolve "" = (c, "") := by
    rw [Command.resolve, Command.findChild]
    rfl
  have resolved : d.registry.resolve (Text.trim "explode") = some ⟨c, "explode", ""⟩ := by
    have split : Text.splitFirstToken "explode" = some ("explode", "") := by decide +kernel
    have lowered : Text.lower "explode" = "explode" := by decide +kernel
    have trimmed : Text.trim "explode" = "explode" := by decide +kernel
    have found : d.registry.get? "explode" = some c := rfl
    rw [trimmed, Registry.resolve_eq, split, Option.bind_some]
    simp only [lowered, found, Option.map_some, leaf]
  have runs : d.Runs m ⟨c, "explode", ""⟩ () :=
    { heeded := by simp [m]
      addressed := ⟨"explode", .inr ⟨by simp [d], rfl⟩, resolved⟩
      permitted := .inl rfl
      runnable := rfl }
  obtain ⟨-, -, -, -, -, reported, -⟩ := handler_failure_reported_once runs
  have crashed := reported (some "boom") rfl rfl
  simp only [Command.erase_path] at crashed
  exact ⟨runs, crashed⟩

end ChatBot.Dispatcher
