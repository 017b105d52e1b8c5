import Mathlib.Data.List.Infix
import Mathlib.Data.List.Nodup
import RouteServer.Command.Standard
import RouteServer.Proofs.Console.Run
import RouteServer.Session.Recorded

/-! # One outcome for each command

A dispatch for a connected client either gives it one whole answer or queues one task. Over a run, a client
that stays connected gets one marker for each line that queued no task, and one for each of its tasks that
has come to its own end.
-/

namespace RouteServer

open Command Schedule

variable {P σ : Type}

/-! ## One dispatch -/

/-- The result of a dispatch tells what its client has got and what was queued. -/
structure OneOutcome (service : Service) (line : String) (result : Except DispatchError Dispatched)
    (outputs : List Output) (queued : List (Schedule.Task σ)) : Prop where
  /-- An answer with its marker and no task, or a task for the line and nothing else. -/
  either :
    (queued = [] ∧ ∃ (lines : List String) (answer : Answer),
      outputs = lines.map .line ++ [.marker answer]) ∨
    (outputs = [] ∧ ∃ t, queued = [t] ∧ t.service = service ∧ t.command = line)
  answered_iff : result = .ok .answered ↔ .marker .done ∈ outputs
  scheduled_iff : ∀ id, result = .ok (.scheduled id) ↔ ∃ t ∈ queued, t.id = id
  error_iff : (∃ e, result = .error e) ↔ .marker .error ∈ outputs

theorem Command.Exit.oneOutcome {registry : Registry P σ} {service : Service} {line : String}
    {sessions : P} {configuration : Configuration} {scheduler : Scheduler σ}
    {result : Except DispatchError Dispatched} {outputs : List Output}
    {queued : List (Schedule.Task σ)}
    (h : Exit registry service line sessions configuration scheduler result outputs queued) :
    OneOutcome service line result outputs queued := by
  have hbare : ∀ e, OneOutcome service line (.error e) [.marker .error] ([] : List (Schedule.Task σ)) :=
    fun e => ⟨.inl ⟨rfl, [], .error, rfl⟩, by simp, by simp, by simp⟩
  cases h with
  | answered d lines hd houtcome hsync =>
    exact ⟨.inl ⟨rfl, lines, .done, rfl⟩, by simp, by simp, by simp⟩
  | scheduled d sequence hd houtcome hasync =>
    exact ⟨.inr ⟨rfl, _, rfl, rfl, rfl⟩, by simp, by simp, by simp⟩
  | _ => exact hbare _

/-! ## Markers -/

theorem Command.Exit.marks {registry : Registry P σ} {service : Service} {line : String}
    {sessions : P} {configuration : Configuration} {scheduler : Scheduler σ}
    {result : Except DispatchError Dispatched} {outputs : List Output}
    {queued : List (Schedule.Task σ)}
    (h : Exit registry service line sessions configuration scheduler result outputs queued) :
    outputs.countP Output.isMarker = if (Console.task? result).isNone then 1 else 0 := by
  cases h <;> simp [Console.task?, Output.isMarker, List.countP_map, Function.comp_def]

/-! ## Runs -/

namespace Console

namespace History

/-- How many markers a client has got. -/
def markers (h : History) (service : Service) : Nat := h.delivered.countP (marks service)

/-- How many lines of a client queued no task. -/
def unscheduled (h : History) (service : Service) : Nat :=
  (h.results service).countP fun result => (task? result).isNone

/-- The tasks that lines of a client queued. -/
def tasks (h : History) (service : Service) : List TaskId := (h.results service).filterMap task?

/-- Whether a task has completed or failed. -/
def ended (h : History) (id : TaskId) : Bool :=
  h.transitions.any fun x => x.task = id && x.state.isAnswered

theorem markers_cons (e : Entry) (h : History) (service : Service) :
    markers (e :: h) service = markers [e] service + h.markers service := by
  simp [markers, delivered]

theorem unscheduled_cons (e : Entry) (h : History) (service : Service) :
    unscheduled (e :: h) service = unscheduled [e] service + h.unscheduled service := by
  rw [unscheduled, unscheduled, unscheduled, ← List.countP_append]
  exact congrArg _ (List.filterMap_append (l := [e]))

theorem transitions_cons (e : Entry) (h : History) :
    transitions (e :: h) = transitions [e] ++ h.transitions := by
  simp [transitions]

end History

/-- Whether a client is connected throughout. -/
def Keeps [OutputSequence σ] [Session.Provider P] (c : Console P σ) (service : Service)
    (actions : List (Action P)) : Prop :=
  ∀ early, early <+: actions → (c.performAll early).2.isConnected service = true

theorem countP_delivered {c : Console P σ} {service : Service} (h : c.isConnected service = true)
    (trace : Trace) : (c.delivered trace).countP (marks service) = trace.written.countP (marks service) := by
  rw [delivered, List.countP_filter]
  refine List.countP_congr fun w _ => ?_
  by_cases hw : w.1 = service <;> simp [marks, hw, h]

variable [OutputSequence σ] [Session.Provider P]

theorem perform_markers {c : Console P σ} {service : Service} (h : c.isConnected service = true)
    (action : Action P) :
    History.markers [(c.perform action).1] service =
      History.unscheduled [(c.perform action).1] service +
        (History.transitions [(c.perform action).1]).countP (settles service) := by
  have hbalanced : ∀ trace : Trace, trace.Balanced service →
      let entry : Entry := { trace, delivered := c.delivered trace }
      History.markers [entry] service = History.unscheduled [entry] service +
        (History.transitions [entry]).countP (settles service) := by
    intro trace htrace
    simpa [History.markers, History.delivered, History.unscheduled, History.results,
      History.transitions, countP_delivered h, Trace.Balanced] using htrace
  cases action with
  | dispatch other line =>
    rcases hdispatch : c.dispatch other line with ⟨result, trace, next⟩
    obtain ⟨outputs, queued, hexit, hwritten, htransitions, -⟩ := exit_of_dispatch hdispatch
    simp only [perform, hdispatch, History.markers, History.delivered, History.unscheduled,
      History.results, History.transitions, List.flatMap_singleton, countP_delivered h, hwritten,
      htransitions]
    by_cases ho : other = service
    · simp [ho, List.countP_map, Function.comp_def, marks, hexit.marks]
    · simp [ho, List.countP_map, Function.comp_def, marks]
  | tick => exact hbalanced _ (Trace.Balanced.tick _ _ _ _)
  | cancel other => exact hbalanced _ (Trace.Balanced.cancelFor _ _ _)
  | connect other => rfl
  | disconnect other => rfl
  | wait milliseconds change => rfl

theorem performAll_markers {c : Console P σ} {service : Service} {actions : List (Action P)}
    (h : c.Keeps service actions) :
    (c.performAll actions).1.markers service =
      (c.performAll actions).1.unscheduled service +
        (c.performAll actions).1.transitions.countP (settles service) := by
  induction actions generalizing c with
  | nil => rfl
  | cons action later ih =>
    have hopen : c.isConnected service = true := h [] List.nil_prefix
    have hlater : (c.perform action).2.Keeps service later := fun early hearly =>
      h (action :: early) (List.cons_prefix_cons.mpr ⟨rfl, hearly⟩)
    have hrest := ih hlater
    have hfirst := perform_markers hopen action
    simp only [performAll]
    rw [History.markers_cons, History.unscheduled_cons, History.transitions_cons, List.countP_append]
    omega

/-- After any actions: whatever line is dispatched for a connected client, it has one outcome; and from
then on, a connected client without a task gets as many markers as lines of its queue no task and tasks of
its complete or fail. -/
theorem one_outcome_for_each_line (registry : Registry P σ) (sessions : P) (configuration : Configuration)
    (connected : List Service) (actions : List (Action P)) (service : Service) :
    let c := (({ registry, sessions, configuration, connected } : Console P σ).performAll actions).2
    (c.isConnected service = true → ∀ line,
      let (result, trace, next) := c.dispatch service line
      ∃ outputs queued,
        Exit c.registry service line c.sessions c.configuration c.scheduler result outputs queued ∧
          OneOutcome service line result outputs queued ∧
          c.delivered trace = outputs.map (service, ·) ∧
          next.scheduler.queue = c.scheduler.queue ++ queued) ∧
    (c.scheduler.isBusy service = false → ∀ later, c.Keeps service later →
      let h := (c.performAll later).1
      h.markers service = h.unscheduled service + (h.tasks service).countP h.ended) := by
  intro c
  constructor
  · intro hopen line
    rcases hdispatch : c.dispatch service line with ⟨result, trace, next⟩
    obtain ⟨outputs, queued, hexit, hwritten, -, hscheduler⟩ := exit_of_dispatch hdispatch
    refine ⟨outputs, queued, hexit, hexit.oneOutcome, ?_, congrArg Scheduler.queue hscheduler⟩
    rw [delivered, hwritten, List.filter_eq_self]
    simp [hopen]
  · intro hidle later hkeeps h
    let start : Console P σ := { registry, sessions, configuration, connected }
    obtain ⟨before, hbefore⟩ := start.performAll_follows actions
    obtain ⟨after, hafter⟩ := c.performAll_follows later
    have hc : c.scheduler = (({} : Scheduler σ).run before).1 := hbefore.scheduler
    rw [hc] at hidle hafter
    have hsettled := Scheduler.countP_settles before after service hidle
    rw [← hafter.transitions, ← hafter.tasks] at hsettled
    rw [performAll_markers hkeeps, hsettled]
    rfl

theorem two_markers_for_two_lines :
    let registry : Registry Session.Recorded Listing := { commands := [ShowNeighbor.descriptor] }
    let c : Console Session.Recorded Listing :=
      { registry, sessions := {}, configuration := {}, connected := [⟨1⟩] }
    let later : List (Action Session.Recorded) :=
      [.dispatch ⟨1⟩ "show  neighbor configuration", .dispatch ⟨1⟩ "show", .tick]
    c.isConnected ⟨1⟩ = true ∧ c.Keeps ⟨1⟩ later ∧
      (c.performAll later).1.markers ⟨1⟩ = 1 + 1 := by
  intro registry c later
  have hkeeps : c.Keeps ⟨1⟩ later := by
    have hall : ∀ early ∈ later.inits, (c.performAll early).2.isConnected ⟨1⟩ = true := by
      decide +kernel
    exact fun early hearly => hall early ((List.mem_inits early later).mpr hearly)
  have hended : let h := (c.performAll later).1
      h.unscheduled ⟨1⟩ = 1 ∧ (h.tasks ⟨1⟩).countP h.ended = 1 := by decide +kernel
  have hmarkers := (one_outcome_for_each_line registry {} {} [⟨1⟩] [] ⟨1⟩).2 rfl later hkeeps
  exact ⟨rfl, hkeeps, hmarkers.trans (congrArg₂ (· + ·) hended.1 hended.2)⟩

end Console

end RouteServer
