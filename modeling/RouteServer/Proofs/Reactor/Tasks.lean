import RouteServer.Proofs.Command.Response
import RouteServer.Proofs.Reactor.Course
import RouteServer.Proofs.Schedule.Run

/-! # The scheduler of the reactor

Inside the reactor, the scheduler does what it does by itself: every step of a turn is a list of operations
on it, and what the trace of the reactor says about a task is what those operations show of it.
-/

namespace RouteServer

open Channel Command Schedule

namespace Reactor

variable {P σ : Type} [OutputSequence σ]

/-- What happens while the reactor goes from one state to another is a run of its scheduler. -/
def Runs (r : Reactor P σ) (trace : Trace) (next : Reactor P σ) : Prop :=
  ∃ operations, next.scheduler = (r.scheduler.run operations).1 ∧
    ∀ id, trace.about id = (r.scheduler.run operations).2.about id

variable {r next last : Reactor P σ} {trace more : Trace}

/-- Events that are not about any task. -/
def Taskless (trace : Trace) : Prop := ∀ e ∈ trace, e.task? = none

omit [OutputSequence σ] in
theorem Taskless.about {trace : Trace} (h : Taskless trace) (id : TaskId) : trace.about id = [] := by
  rw [Trace.about, List.filter_eq_nil_iff]
  intro e he
  simp [h e he]

theorem Runs.refl (r : Reactor P σ) : Runs r [] r := ⟨[], rfl, fun _ => rfl⟩

theorem Runs.same (h : Taskless trace) (hscheduler : next.scheduler = r.scheduler) :
    Runs r trace next := ⟨[], hscheduler, fun id => h.about id⟩

theorem Runs.trans (h : Runs r trace next) (h' : Runs next more last) :
    Runs r (trace ++ more) last := by
  obtain ⟨early, hnext, htrace⟩ := h
  obtain ⟨late, hlast, hmore⟩ := h'
  refine ⟨early ++ late, ?_, fun id => ?_⟩
  · rw [Scheduler.run_append, hlast, hnext]
  · rw [Scheduler.run_append, Trace.about_append, Trace.about_append, htrace, hmore, hnext]

/-! ## Steps -/

theorem register_runs (r : Reactor P σ) :
    Runs r r.clients.register.2.2 { r with clients := r.clients.register.2.1 } :=
  .same (by simp [Taskless, Clients.register, Clients.note, Event.task?]) rfl

theorem dropService_runs (r : Reactor P σ) (service : Service) :
    Runs r (r.dropService service).trace (r.dropService service).reactor := by
  have hcancel : Runs r (r.scheduler.cancelFor service).2
      { r with scheduler := (r.scheduler.cancelFor service).1 } :=
    ⟨[.cancel service], rfl, fun id => by simp [Scheduler.run, Scheduler.perform]⟩
  have hnotes : Runs { r with scheduler := (r.scheduler.cancelFor service).1 }
      ((r.scheduler.cancelFor service).2.transitions.map departedNote)
      { r with scheduler := (r.scheduler.cancelFor service).1 } :=
    .same (by simp [Taskless, departedNote, Event.task?]) rfl
  have hremove : Runs { r with scheduler := (r.scheduler.cancelFor service).1 }
      (r.clients.remove service).2 (r.dropService service).reactor := by
    refine .same ?_ rfl
    unfold Clients.remove
    split <;> simp [Taskless, Clients.note, Event.task?]
  exact (hcancel.trans hnotes).trans hremove

theorem visit_taskless {clients : Clients} {operation : Service → Client → Clients.Progress}
    (h : ∀ service c, Taskless (operation service c).trace) :
    Taskless (clients.visit operation).2.2 := by
  simp only [Clients.visit, Keyed.mapEntries, List.flatMap_map]
  intro e he
  obtain ⟨entry, -, he⟩ := List.mem_flatMap.mp he
  exact h entry.1 entry.2 e he

omit [OutputSequence σ] in
theorem receive_taskless (r : Reactor P σ) (reads : Service → List ReadOutcome) :
    Taskless (r.clients.readAvailable reads).2.2 := by
  refine visit_taskless fun service c => ?_
  unfold Clients.readClient
  split
  · exact fun e he => nomatch he
  · dsimp only
    split <;> split <;> simp [Taskless, Clients.note, Event.task?]

theorem receive_runs (r : Reactor P σ) (reads : Service → List ReadOutcome) :
    Runs r (r.clients.readAvailable reads).2.2
      { r with clients := (r.clients.readAvailable reads).1 } := .same (r.receive_taskless reads) rfl

omit [OutputSequence σ] in
theorem send_taskless (r : Reactor P σ) (writes : Service → List WriteOutcome) :
    Taskless (r.clients.flush writes).2.2 := by
  refine visit_taskless fun service c => ?_
  unfold Clients.flushClient
  split
  · exact fun e he => nomatch he
  · dsimp only
    split <;> split <;> simp [Taskless, Clients.note, Event.task?]

theorem send_runs (r : Reactor P σ) (writes : Service → List WriteOutcome) :
    Runs r (r.clients.flush writes).2.2 { r with clients := (r.clients.flush writes).1 } :=
  .same (r.send_taskless writes) rfl

omit [OutputSequence σ] in
theorem dispatch_taskless (registry : Registry P σ) (configuration : Configuration) (service : Service)
    (line : String) (sessions : P) (scheduler : Scheduler σ) :
    Taskless (registry.dispatch service line sessions configuration scheduler).trace := by
  unfold Registry.dispatch
  cases registry.resolve (Text.words line) with
  | none => simp [Taskless, Event.task?]
  | some d =>
    cases houtcome : (d.handler (d.invocation service line) sessions configuration).outcome with
    | error cause => simp [houtcome, Taskless, Registry.dispatchNote, Event.task?, or_imp, forall_and]
    | ok outcome =>
      cases hasync : d.isAsync <;> cases outcome <;>
        simp [houtcome, hasync, Taskless, Registry.dispatchNote, Registry.contractNote,
          Scheduler.schedule, Task.note, Event.task?, or_imp, forall_and]

omit [OutputSequence σ] in
theorem dispatchedNote_taskless (service : Service) (outcome : Except DispatchError Dispatched) :
    Taskless [dispatchedNote service outcome] := by
  cases outcome <;> simp [Taskless, dispatchedNote, Event.task?]

theorem dispatchFor_runs (r : Reactor P σ) (service : Service) :
    Runs r (r.dispatchFor service).trace (r.dispatchFor service).reactor := by
  unfold dispatchFor
  split
  · exact .refl r
  · split
    · exact .refl r
    · rename_i line clients _
      have htaskless := dispatch_taskless r.registry r.configuration service line r.sessions r.scheduler
      let result := r.registry.dispatch service line r.sessions r.configuration r.scheduler
      have habout := fun id => congr (congrArg HAppend.hAppend (htaskless.about id))
        ((dispatchedNote_taskless service result.outcome).about id)
      rcases dispatch_spec r.registry r.configuration service line r.sessions r.scheduler with
        ⟨output, -, hscheduler, -⟩ | ⟨sequence, -, hscheduler, -⟩
      · exact ⟨[], hscheduler, fun id => (Trace.about_append ..).trans (habout id)⟩
      · refine ⟨[.schedule service line sequence], hscheduler, fun id =>
          (Trace.about_append ..).trans ((habout id).trans ?_)⟩
        simp [Scheduler.run, Scheduler.perform, Scheduler.schedule, Task.note, Trace.about, Event.task?]

variable [Session.Provider P]

theorem tick_runs (r : Reactor P σ) : Runs r r.tick.trace r.tick.reactor := by
  unfold tick
  split
  · exact .refl r
  · exact ⟨[.tick r.clients.isConnected r.context], rfl,
      fun id => by simp [Scheduler.run, Scheduler.perform]⟩

/-! ## Runs -/

theorem runs_course : Course (@Runs P σ _) where
  refl := .refl
  trans := .trans
  await _ round := ⟨[.elapse round.elapsed], rfl, fun _ => rfl⟩
  join := register_runs
  receive := receive_runs
  dispatch := dispatchFor_runs
  tick := tick_runs
  send := send_runs
  drop := dropService_runs

end Reactor

end RouteServer
