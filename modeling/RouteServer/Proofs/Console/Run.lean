import RouteServer.Console
import RouteServer.Proofs.Command.Response
import RouteServer.Proofs.Schedule.Endings

/-! # Runs of a console

A run is any list of actions. What a run does with tasks is a run of its scheduler: by `run_follows`, the
tasks that dispatches report are the ones that the scheduler has been given, and the transitions are its
transitions.
-/

namespace RouteServer

open Command Schedule

/-! ## The ways out of a dispatch -/

namespace Command

variable {P σ : Type}

/-- What a dispatch returns, what it writes for its client and what it queues. -/
inductive Exit (registry : Registry P σ) (service : Service) (line : String) (sessions : P)
    (configuration : Configuration) (scheduler : Scheduler σ) :
    Except DispatchError Dispatched → List Output → List (Schedule.Task σ) → Prop
  | unknown (hd : registry.resolve (Text.words line) = none) :
    Exit registry service line sessions configuration scheduler
      (.error (.unknownCommand line)) [.marker .error] []
  | failed (d : Descriptor P σ) (cause : CommandError)
    (hd : registry.resolve (Text.words line) = some d)
    (houtcome : (d.handler (d.invocation service line) sessions configuration).outcome =
      .error cause) :
    Exit registry service line sessions configuration scheduler
      (.error (.failed d.verb cause)) [.marker .error] []
  | asyncAnswered (d : Descriptor P σ) (lines : List String)
    (hd : registry.resolve (Text.words line) = some d)
    (houtcome : (d.handler (d.invocation service line) sessions configuration).outcome =
      .ok (.answered lines)) (hasync : d.isAsync = true) :
    Exit registry service line sessions configuration scheduler
      (.error (.brokenContract d.verb .scheduledOutput)) [.marker .error] []
  | syncScheduled (d : Descriptor P σ) (sequence : σ)
    (hd : registry.resolve (Text.words line) = some d)
    (houtcome : (d.handler (d.invocation service line) sessions configuration).outcome =
      .ok (.scheduled sequence)) (hsync : d.isAsync = false) :
    Exit registry service line sessions configuration scheduler
      (.error (.brokenContract d.verb .immediateAnswer)) [.marker .error] []
  | answered (d : Descriptor P σ) (lines : List String)
    (hd : registry.resolve (Text.words line) = some d)
    (houtcome : (d.handler (d.invocation service line) sessions configuration).outcome =
      .ok (.answered lines)) (hsync : d.isAsync = false) :
    Exit registry service line sessions configuration scheduler
      (.ok .answered) (lines.map .line ++ [.marker .done]) []
  | scheduled (d : Descriptor P σ) (sequence : σ)
    (hd : registry.resolve (Text.words line) = some d)
    (houtcome : (d.handler (d.invocation service line) sessions configuration).outcome =
      .ok (.scheduled sequence)) (hasync : d.isAsync = true) :
    Exit registry service line sessions configuration scheduler
      (.ok (.scheduled ⟨scheduler.lastId + 1⟩)) []
      [{ id := ⟨scheduler.lastId + 1⟩, service, command := line, sequence,
         createdAt := scheduler.now }]

theorem written_behind (i : Invocation) (notes : List Log.Record) (t : Trace) :
    Trace.written ([Registry.dispatchNote i, .invoked i] ++ notes.map .note ++ t) = t.written := by
  rw [Trace.written_append]
  simp [Trace.written, Registry.dispatchNote, List.filterMap_map]

theorem transitions_behind (i : Invocation) (notes : List Log.Record) (t : Trace) :
    Trace.transitions ([Registry.dispatchNote i, .invoked i] ++ notes.map .note ++ t) =
      t.transitions := by
  rw [Trace.transitions_append]
  simp [Trace.transitions, Registry.dispatchNote, List.filterMap_map]

/-- A dispatch takes one way out, and that is all that it does. -/
theorem dispatch_exit (registry : Registry P σ) (service : Service) (line : String) (sessions : P)
    (configuration : Configuration) (scheduler : Scheduler σ) :
    let r := registry.dispatch service line sessions configuration scheduler
    ∃ outputs queued,
      Exit registry service line sessions configuration scheduler r.outcome outputs queued ∧
        r.trace.written = outputs.map (service, ·) ∧ r.trace.transitions = [] ∧
        r.scheduler = { scheduler with
          queue := scheduler.queue ++ queued, lastId := scheduler.lastId + queued.length } := by
  have hsame : scheduler = { scheduler with queue := scheduler.queue ++ [] } := by
    rw [List.append_nil]
  unfold Registry.dispatch
  split
  case h_1 hd => exact ⟨_, _, .unknown hd, rfl, rfl, hsame⟩
  case h_2 d hd =>
    dsimp only
    split
    case h_1 cause houtcome =>
      exact ⟨_, _, .failed d cause hd houtcome, written_behind .., transitions_behind .., hsame⟩
    case h_2 lines houtcome hsync =>
      refine ⟨_, _, .answered d lines hd houtcome hsync, ?_, ?_, hsame⟩
      · rw [List.append_assoc, written_behind]
        simp [Trace.written, List.filterMap_map, Function.comp_def]
      · rw [List.append_assoc, transitions_behind]
        simp [Trace.transitions, List.filterMap_map]
    case h_3 sequence houtcome hasync =>
      exact ⟨_, _, .scheduled d sequence hd houtcome hasync, written_behind .., transitions_behind .., rfl⟩
    case h_4 lines houtcome hasync =>
      exact ⟨_, _, .asyncAnswered d lines hd houtcome hasync, written_behind .., transitions_behind ..,
        hsame⟩
    case h_5 sequence houtcome hsync =>
      exact ⟨_, _, .syncScheduled d sequence hd houtcome hsync, written_behind .., transitions_behind ..,
        hsame⟩

end Command

namespace Console

variable {P σ : Type}

/-! ## Actions -/

/-- Something that is done with a console. While it waits, the sessions go on. -/
inductive Action (P : Type) where
  | dispatch (service : Service) (line : String)
  | tick
  | cancel (service : Service)
  | connect (service : Service)
  | disconnect (service : Service)
  | wait (milliseconds : Nat) (change : P → P)

/-- What an action has led to. -/
structure Entry where
  /-- The client for which a line was dispatched, and what came of it. -/
  dispatched : Option (Service × Except DispatchError Dispatched) := none
  trace : Trace := []
  /-- The lines that have reached clients. -/
  delivered : List (Service × Output) := []

/-- What several actions have led to, one after the other. -/
abbrev History := List Entry

namespace History

def delivered (h : History) : List (Service × Output) := h.flatMap (·.delivered)

def transitions (h : History) : List Transition := h.flatMap (·.trace.transitions)

/-- What came of the lines that were dispatched for a client. -/
def results (h : History) (service : Service) : List (Except DispatchError Dispatched) :=
  h.filterMap fun e => e.dispatched.bind fun (other, result) =>
    if other = service then some result else none

end History

/-- The task that a dispatch has queued. -/
def task? : Except DispatchError Dispatched → Option TaskId
  | .ok (.scheduled task) => some task
  | _ => none

theorem exit_of_dispatch {c next : Console P σ} {service : Service} {line : String}
    {result : Except DispatchError Dispatched} {trace : Trace}
    (h : c.dispatch service line = (result, trace, next)) :
    ∃ outputs queued,
      Exit c.registry service line c.sessions c.configuration c.scheduler result outputs queued ∧
        trace.written = outputs.map (service, ·) ∧ trace.transitions = [] ∧
        next.scheduler = { c.scheduler with
          queue := c.scheduler.queue ++ queued, lastId := c.scheduler.lastId + queued.length } := by
  have hexit := dispatch_exit c.registry service line c.sessions c.configuration c.scheduler
  simp only [dispatch, Prod.mk.injEq] at h
  obtain ⟨rfl, rfl, rfl⟩ := h
  exact hexit

variable [OutputSequence σ] [Session.Provider P]

def perform (c : Console P σ) : Action P → Entry × Console P σ
  | .dispatch service line =>
    let (result, trace, next) := c.dispatch service line
    ({ dispatched := some (service, result), trace, delivered := c.delivered trace }, next)
  | .tick =>
    let (trace, next) := c.tick
    ({ trace, delivered := c.delivered trace }, next)
  | .cancel service =>
    let (trace, next) := c.cancel service
    ({ trace, delivered := c.delivered trace }, next)
  | .connect service => ({}, (c.connect service).2)
  | .disconnect service => ({}, (c.disconnect service).2)
  | .wait milliseconds change =>
    ({}, { c with scheduler := c.scheduler.elapse milliseconds, sessions := change c.sessions })

def performAll (c : Console P σ) : List (Action P) → History × Console P σ
  | [] => ([], c)
  | action :: later =>
    let (entry, next) := c.perform action
    let (entries, last) := next.performAll later
    (entry :: entries, last)

/-! ## The scheduler behind a console -/

/-- What actions have led to is what a run of the scheduler shows. -/
structure Follows (s : Scheduler σ) (operations : List (Schedule.Operation σ)) (h : History)
    (last : Scheduler σ) : Prop where
  scheduler : last = (s.run operations).1
  transitions : h.transitions = (s.run operations).2.transitions
  tasks : ∀ service, (h.results service).filterMap task? =
    s.issuedTo service operations

omit [Session.Provider P] in
theorem Follows.append {s mid last : Scheduler σ} {early late : List (Schedule.Operation σ)}
    {h more : History} (hfirst : Follows s early h mid) (hrest : Follows mid late more last) :
    Follows s (early ++ late) (h ++ more) last := by
  obtain rfl := hfirst.scheduler
  constructor
  · rw [Scheduler.run_append]
    exact hrest.scheduler
  · rw [Scheduler.run_append, Trace.transitions_append, ← hfirst.transitions, ← hrest.transitions]
    exact List.flatMap_append
  · intro service
    rw [Scheduler.issuedTo, Scheduler.issued_append, List.filter_append, List.map_append]
    refine Eq.trans ?_ (congr (congrArg HAppend.hAppend (hfirst.tasks service)) (hrest.tasks service))
    rw [← List.filterMap_append]
    exact congrArg _ List.filterMap_append

theorem perform_follows (c : Console P σ) (action : Action P) :
    ∃ operations, Follows c.scheduler operations [(c.perform action).1] (c.perform action).2.scheduler := by
  cases action with
  | dispatch service line =>
    rcases hdispatch : c.dispatch service line with ⟨result, trace, next⟩
    obtain ⟨outputs, queued, hexit, -, htransitions, hscheduler⟩ := exit_of_dispatch hdispatch
    simp only [perform, hdispatch]
    let entry : Entry := { dispatched := some (service, result), trace, delivered := c.delivered trace }
    have hshown : History.transitions [entry] = [] := by
      simpa [History.transitions] using htransitions
    have hresults : ∀ other, History.results [entry] other = if service = other then [result] else [] := by
      intro other
      by_cases h : service = other <;> simp [History.results, entry, h]
    have hempty : queued = [] → task? result = none →
        Follows c.scheduler [] [entry] next.scheduler := by
      rintro rfl hnone
      refine ⟨hscheduler.trans (by simp [Scheduler.run]), hshown, fun other => ?_⟩
      rw [hresults]
      split
      · exact List.filterMap_cons_none hnone
      · rfl
    cases hexit with
    | scheduled d sequence hd houtcome hasync =>
      refine ⟨[.schedule service line sequence], hscheduler, hshown, fun other => ?_⟩
      rw [hresults]
      by_cases h : service = other <;>
        simp [task?, Scheduler.issuedTo, Scheduler.issued, Scheduler.given, Scheduler.schedule, h]
    | _ => exact ⟨[], hempty rfl rfl⟩
  | tick =>
    refine ⟨[.tick c.isConnected ⟨Session.Provider.view c.sessions, c.configuration⟩], rfl, ?_,
      fun service => rfl⟩
    simp [perform, History.transitions, tick, Scheduler.run, Scheduler.perform]
  | cancel service =>
    refine ⟨[.cancel service], rfl, ?_, fun service => rfl⟩
    simp [perform, History.transitions, cancel, Scheduler.run, Scheduler.perform]
  | connect service => exact ⟨[], rfl, rfl, fun service => rfl⟩
  | disconnect service => exact ⟨[], rfl, rfl, fun service => rfl⟩
  | wait milliseconds change => exact ⟨[.elapse milliseconds], rfl, rfl, fun service => rfl⟩

theorem performAll_follows (c : Console P σ) (actions : List (Action P)) :
    ∃ operations, Follows c.scheduler operations (c.performAll actions).1
      (c.performAll actions).2.scheduler := by
  induction actions generalizing c with
  | nil => exact ⟨[], rfl, rfl, fun service => rfl⟩
  | cons action later ih =>
    obtain ⟨early, hfirst⟩ := c.perform_follows action
    obtain ⟨late, hrest⟩ := ih (c.perform action).2
    exact ⟨early ++ late, hfirst.append hrest⟩

end Console

end RouteServer
