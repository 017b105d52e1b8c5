import Mathlib.Data.List.Basic
import Mathlib.Data.List.TakeWhile
import RouteServer.Proofs.Schedule.Lifecycle

/-! # Tasks take turns

A tick steps every queued task whose client is connected, once and in the order of the queue. Those that are not
over then stay in the queue, in the same order. So a task has been stepped once in each tick since it was
scheduled.
-/

namespace RouteServer

open Schedule

variable {σ : Type}

/-- The tasks that have been stepped, with the answers of their outputs. -/
def Trace.stepped (t : Trace) : List (TaskId × StepResult) :=
  t.filterMap fun
    | .stepped id result => some (id, result)
    | _ => none

@[simp]
theorem Trace.stepped_append (t u : Trace) : stepped (t ++ u) = t.stepped ++ u.stepped :=
  List.filterMap_append ..

namespace Schedule

instance (trace : Trace) (id : TaskId) : Decidable (Over trace id) :=
  inferInstanceAs (Decidable (∃ state ∈ (trace.about id).states, state.isTerminal = true))

theorem StepResult.isTerminal_of_closing {r : StepResult} {state : TaskState} (h : r.closing = some state) :
    state.isTerminal = true := by
  match r with
  | .ok .exhausted | .error cause =>
    obtain rfl := Option.some.inj h
    rfl
  | .ok (.line text) | .ok .idle => cases h

variable [OutputSequence σ]

theorem length_replies {sequence rest : σ} {contexts : List StepContext}
    (h : residue sequence contexts = some rest) : (replies sequence contexts).length = contexts.length := by
  induction contexts generalizing sequence with
  | nil => rfl
  | cons context later ih =>
    simp only [residue] at h
    simp only [replies]
    split at h
    · cases h
    · rename_i hgoes
      rw [if_neg hgoes, List.length_cons, ih h, List.length_cons]

omit [OutputSequence σ] in
theorem Operation.served_of_spared {service : Service} {operations : List (Operation σ)}
    (h : operations.all (·.spares service) = true) :
    served service operations = operations.filterMap context? := by
  rw [served, List.takeWhile_eq_self_iff.mpr (List.all_eq_true.mp h)]

namespace Task

variable {connected : Service → Bool} {context : StepContext} {now : Nat} {t : Task σ}

/-- A task after a step that does not end it. -/
def continued (context : StepContext) (t : Task σ) : Task σ :=
  { t with state := .running, sequence := (OutputSequence.step context t.sequence).2 }

theorem advance_stepped : (t.advance connected context now).2.stepped =
    if connected t.service then [(t.id, (OutputSequence.step context t.sequence).1)] else [] := by
  have hstart : Trace.stepped (if t.state = .pending then [t.enter .running] else []) = [] := by
    split <;> rfl
  unfold advance
  cases h : connected t.service with
  | false => rfl
  | true =>
    rw [if_neg (by simp)]
    rcases OutputSequence.step context t.sequence with ⟨cause | (text | _ | _), next⟩
    all_goals
      simp only [Trace.stepped_append, hstart]
      rfl

omit [OutputSequence σ] in
theorem states_shown (t : Task σ) (r : StepResult) : Trace.states (t.shown r) = [] := by
  simp [shown, Trace.states, Trace.transitions]

omit [OutputSequence σ] in
theorem not_terminal_of_starting (t : Task σ) {state : TaskState} (h : state ∈ t.starting.states) :
    state.isTerminal = false := by
  unfold starting at h
  split at h
  · obtain rfl := List.mem_singleton.mp h
    rfl
  · cases h

theorem advance_left : (t.advance connected context now).1 =
    if Over (t.advance connected context now).2 t.id then none else some (t.continued context) := by
  cases h : connected t.service with
  | false =>
    obtain ⟨hleft, hseen⟩ := advance_of_gone (t := t) context now h
    rw [hleft, if_pos]
    rw [Over, hseen]
    exact ⟨.cancelled, List.mem_singleton_self _, rfl⟩
  | true =>
    have hadvance := advance_of_connected (t := t) context now h
    rcases hstep : OutputSequence.step context t.sequence with ⟨result, next⟩
    rw [hstep] at hadvance
    obtain ⟨hleft, hseen⟩ := hadvance
    rw [hleft, StepResult.ends, continued, hstep]
    cases hclosing : StepResult.closing result with
    | none =>
      rw [if_neg (by simp), if_neg]
      rintro ⟨state, hstate, hterminal⟩
      rw [hseen, hclosing, Option.toList_none, List.map_nil, List.append_nil, Trace.states_append,
        states_shown, List.append_nil] at hstate
      rw [t.not_terminal_of_starting hstate] at hterminal
      cases hterminal
    | some state =>
      rw [Option.isSome_some, if_pos rfl, if_pos]
      refine ⟨state, ?_, StepResult.isTerminal_of_closing hclosing⟩
      rw [hseen, hclosing, Trace.states_append]
      exact List.mem_append_right _ (List.mem_singleton_self state)

end Task

namespace Scheduler

variable {s : Scheduler σ} {connected : Service → Bool} {context : StepContext}

theorem tick_stepped : (s.tick connected context).2.stepped =
    (s.queue.filter fun t => connected t.service).map fun t =>
      (t.id, (OutputSequence.step context t.sequence).1) := by
  rw [tick_eq]
  induction s.queue with
  | nil => rfl
  | cons t rest ih =>
    rw [List.flatMap_cons, Trace.stepped_append, ih, Task.advance_stepped, List.filter_cons]
    split <;> rfl

theorem over_tick_iff (h : s.Numbered) {t : Task σ} (ht : t ∈ s.queue) :
    Over (s.tick connected context).2 t.id ↔ Over (t.advance connected context s.now).2 t.id := by
  have habout := about_perform_task? h (.tick connected context) t.id
  rw [(task?_eq_some_iff h).mpr ⟨ht, rfl⟩] at habout
  rw [Over, Over, show (s.tick connected context).2.about t.id = _ from habout]
  rfl

theorem tick_queue (h : s.Numbered) : (s.tick connected context).1.queue =
    (s.queue.filter fun t => ¬ Over (s.tick connected context).2 t.id).map (Task.continued context) := by
  have hleft : ∀ t ∈ s.queue, (t.advance connected context s.now).1 =
      if Over (s.tick connected context).2 t.id then none else some (t.continued context) := by
    intro t ht
    rw [Task.advance_left]
    simp only [over_tick_iff h ht]
  have hqueue : (s.tick connected context).1.queue =
      s.queue.filterMap fun t => (t.advance connected context s.now).1 := by rw [tick_eq]
  rw [hqueue, List.filterMap_congr hleft]
  induction s.queue with
  | nil => rfl
  | cons t rest ih =>
    rw [List.filterMap_cons, List.filter_cons, ih]
    by_cases hover : Over (s.tick connected context).2 t.id <;> simp [hover]

theorem length_steps (before since : List (Operation σ)) (service : Service) (command : String)
    (sequence : σ) :
    let reached := ({} : Scheduler σ).run (before ++ .schedule service command sequence :: since)
    let id := ((({} : Scheduler σ).run before).1.schedule service command sequence).1
    (∃ t ∈ reached.1.queue, t.id = id) →
      (reached.2.about id).steps.length = (since.filterMap Operation.context?).length := by
  intro reached id hqueued
  let start := (({} : Scheduler σ).run before).1
  let t : Task σ := { id, service, command, sequence, createdAt := start.now }
  obtain ⟨hleft, hseen⟩ := run_scheduled before since service command sequence
  obtain ⟨hlive, hstory⟩ := t.live_spec start.now since
  obtain ⟨u, hu⟩ := Option.isSome_iff_exists.mp (isSome_task?_iff.mpr hqueued)
  have halive := (hleft.trans hlive).symm.trans hu
  rw [Option.ite_none_right_eq_some, Option.map_eq_some_iff] at halive
  obtain ⟨hspared, rest, hresidue, -⟩ := halive
  rw [hseen.trans hstory, Task.steps_story, length_replies hresidue, Operation.served_of_spared hspared]

end Scheduler

end Schedule

end RouteServer
