import ChatBot.Proofs.Dispatch
import ChatBot.Proofs.RootOrder

/-!
# Running handler programs

A program runs request by request: each request is answered from the world, which it may
change, and the program goes on with the answer. So a run of `x` followed by `f` is the run
of `x`, then, when `x` finished with a value, the run of the program `f` makes of it from
the world `x` left; when `x` stopped, the whole run stops there, keeping the world
(`run_bind_of_ok`, `run_bind_of_error`). Turning failures into other failures changes no
request and no answer (`run_mapFailure_of_ok`, `run_mapFailure_of_crash`).

A handler runs its gate and then, when the gate admits the event, its body from the world
the gate left; a gate that declines or crashes ends the run with what it did.

A handler changes the shared registry only through the registry's own changes, so no run
makes two root commands share a name (`Action.run_distinct`), and neither does anything a
dispatcher is asked to do (`Dispatcher.foldl_perform_distinct`).
-/

namespace ChatBot

namespace Action

variable {σ η ε ε' α β : Type} (e : Event)

/-- A request is answered from the world, and the program goes on with the answer from the
world the answer left. -/
theorem run_ask (r : Request σ η) (next : r.Answer → Action σ η ε α) (w : World σ η) :
    (ask r next).run e w = (next (w.answer e r).1).run e (w.answer e r).2 :=
  rfl

/-- When the first program finishes with a value, the second goes on from where it left. -/
theorem run_bind_of_ok {x : Action σ η ε α} {f : α → Action σ η ε β} {w w' : World σ η} {a : α}
    (ran : x.run e w = (.ok a, w')) : (x.bind f).run e w = (f a).run e w' := by
  induction x generalizing w with
  | done b =>
    cases ran
    rfl
  | fail f => cases ran
  | crash p => cases ran
  | ask r next ih => exact ih _ ran

/-- When the first program stops, the whole run stops there with what it did. -/
theorem run_bind_of_error {x : Action σ η ε α} {f : α → Action σ η ε β} {w w' : World σ η}
    {s : Stop ε} (ran : x.run e w = (.error s, w')) : (x.bind f).run e w = (.error s, w') := by
  induction x generalizing w with
  | done b => cases ran
  | fail f =>
    cases ran
    rfl
  | crash p =>
    cases ran
    rfl
  | ask r next ih => exact ih _ ran

/-- A program that finishes finishes alike with its failures turned into others. -/
theorem run_mapFailure_of_ok {g : ε → ε'} {x : Action σ η ε α} {w w' : World σ η} {a : α}
    (ran : x.run e w = (.ok a, w')) : (x.mapFailure g).run e w = (.ok a, w') := by
  induction x generalizing w with
  | done b =>
    cases ran
    rfl
  | fail f => cases ran
  | crash p => cases ran
  | ask r next ih => exact ih _ ran

/-- A program that crashes crashes alike with its failures turned into others. -/
theorem run_mapFailure_of_crash {g : ε → ε'} {x : Action σ η ε α} {w w' : World σ η}
    {p : Option String} (ran : x.run e w = (.error (.crash p), w')) :
    (x.mapFailure g).run e w = (.error (.crash p), w') := by
  induction x generalizing w with
  | done b => cases ran
  | fail f => cases ran
  | crash q =>
    cases ran
    rfl
  | ask r next ih => exact ih _ ran

end Action

namespace Handler

variable {σ η : Type} (h : Handler σ η) (e : Event) {w w' : World σ η}

/-- A gate that admits the event hands the world it left to the body. -/
theorem perform_run_of_admitted (admitted : (h.admits e).run e w = (.ok true, w')) :
    (h.perform e).run e w = (h.run e).run e w' :=
  Action.run_bind_of_ok e (Action.run_mapFailure_of_ok e admitted)

/-- A gate that declines the event ends the run, keeping what the gate did. -/
theorem perform_run_of_declined (declined : (h.admits e).run e w = (.ok false, w')) :
    (h.perform e).run e w = (.ok (), w') :=
  Action.run_bind_of_ok e (Action.run_mapFailure_of_ok e declined)

/-- A gate that crashes ends the run with its crash, keeping what the gate did. -/
theorem perform_run_of_crash {p : Option String}
    (crashed : (h.admits e).run e w = (.error (.crash p), w')) :
    (h.perform e).run e w = (.error (.crash p), w') :=
  Action.run_bind_of_error e (Action.run_mapFailure_of_crash e crashed)

end Handler

/-! ## The registry keeps distinct names -/

namespace World

variable {σ η : Type}

/-- A request keeps the registry's root names distinct. -/
theorem answer_distinct (e : Event) (w : World σ η) (r : Request σ η)
    (distinct : w.registry.Distinct) : (w.answer e r).2.registry.Distinct := by
  cases r with
  | editRegistry change => exact distinct.change change
  | reply content => exact distinct
  | settingsFor guild => exact distinct
  | editSettings guild f => exact distinct
  | arguments => exact distinct
  | registry => exact distinct
  | memory => exact distinct
  | remember f => exact distinct

end World

/-- A run keeps the registry's root names distinct, however it ends. -/
theorem Action.run_distinct {σ η ε α : Type} (e : Event) (x : Action σ η ε α) (w : World σ η)
    (distinct : w.registry.Distinct) : (x.run e w).2.registry.Distinct := by
  induction x generalizing w with
  | done a => exact distinct
  | fail f => exact distinct
  | crash p => exact distinct
  | ask r next ih => exact ih _ _ (World.answer_distinct e w r distinct)

namespace Dispatcher

variable {σ η : Type}

/-- Every call keeps the registry's root names distinct, handlers' runs included. -/
theorem perform_distinct (d : Dispatcher σ η) (c : Call σ η) (distinct : d.registry.Distinct) :
    (d.perform c).registry.Distinct := by
  cases c with
  | message m =>
    rw [perform]
    exact onMessage_fst_of (P := fun d' => d'.registry.Distinct) d m distinct distinct
      fun _ _ _ => Action.run_distinct _ _ _ distinct
  | ready id =>
    show (d.ready id).registry.Distinct
    unfold ready
    split
    · exact distinct
    · exact distinct
  | addOwner id => exact distinct
  | removeOwner id => exact distinct
  | addCommand c => exact distinct.change (.add c)
  | removeCommand name => exact distinct.change (.remove name)
  | settingsFor guild => exact distinct
  | setPrefix guild p => exact distinct

/-- Whatever a dispatcher with distinct root names is asked to do, and whatever its handlers
do to the registry, no two root commands come to share a name. -/
theorem foldl_perform_distinct (d : Dispatcher σ η) (calls : List (Call σ η))
    (distinct : d.registry.Distinct) : (calls.foldl perform d).registry.Distinct := by
  induction calls generalizing d with
  | nil => exact distinct
  | cons c calls ih => exact ih _ (perform_distinct d c distinct)

end Dispatcher

end ChatBot
