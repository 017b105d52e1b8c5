import RouteServer.Proofs.Schedule.Delivery

/-! # The lifecycle of tasks

A task is pending, then running, then over, and it is over exactly when it has left the queue. A client is
busy as long as one of its tasks is not over.
-/

namespace RouteServer.Schedule

variable {σ : Type} [OutputSequence σ]

namespace Scheduler

/-! ## Numbers that are given out -/

theorem issued_numbers (s : Scheduler σ) (operations : List (Operation σ)) :
    (s.issued operations).map (·.1.number) =
      List.range' (s.lastId + 1) (s.issued operations).length := by
  induction operations generalizing s with
  | nil => rfl
  | cons operation later ih =>
    rw [issued, List.map_append, ih, perform_lastId]
    cases operation with
    | schedule service command sequence => rfl
    | tick connected context => rfl
    | cancel service => rfl
    | elapse milliseconds => rfl

/-- What became of a task that a run has scheduled. -/
theorem issued_spec {operations : List (Operation σ)} {id : TaskId} {service : Service}
    (h : (id, service) ∈ ({} : Scheduler σ).issued operations) :
    let (s, trace) := ({} : Scheduler σ).run operations
    Outcome (trace.about id).steps ((trace.about id).written.map (·.2)) (trace.about id).states
      ((s.task? id).isSome = true) ∧
      ∀ t, s.task? id = some t →
        t.service = service ∧ (t.state = .pending ↔ (trace.about id).steps = []) := by
  obtain ⟨before, command, sequence, later, rfl, rfl⟩ := mem_issued.mp h
  let s := (({} : Scheduler σ).run before).1
  let t : Task σ :=
    { id := (s.schedule service command sequence).1, service, command, sequence, createdAt := s.now }
  obtain ⟨hleft, hseen⟩ := run_scheduled before later service command sequence
  obtain ⟨hlive, hstory⟩ := t.live_spec s.now later
  constructor
  · rw [hleft, hseen]
    exact t.outcome_live s.now later rfl
  · intro u hu
    rw [hseen.trans hstory, Task.steps_story, replies_eq_nil_iff]
    rw [hleft.trans hlive, Option.ite_none_right_eq_some, Option.map_eq_some_iff] at hu
    obtain ⟨-, rest, -, rfl⟩ := hu
    refine ⟨rfl, ?_⟩
    cases Operation.served t.service later <;> simp [Task.after, t]

theorem unissued_spec {operations : List (Operation σ)} {id : TaskId}
    (h : ∀ service, (id, service) ∉ ({} : Scheduler σ).issued operations) :
    let (s, trace) := ({} : Scheduler σ).run operations
    s.task? id = none ∧ trace.about id = [] := by
  by_cases hlow : 0 < id.number
  · have hhigh : (({} : Scheduler σ).run operations).1.lastId < id.number := by
      refine Nat.not_le.mp fun hhigh => ?_
      obtain ⟨service, hmem⟩ := exists_issued (s := ({} : Scheduler σ)) hlow hhigh
      exact h service hmem
    exact ⟨task?_of_lt (run_numbered numbered_empty operations) hhigh,
      about_run_of_lt numbered_empty operations hhigh⟩
  · exact run_task? numbered_empty operations (Nat.not_lt.mp hlow)

theorem exists_owner (operations : List (Operation σ)) (id : TaskId) :
    ∃ service, ∀ e ∈ (({} : Scheduler σ).run operations).2.about id, e.Concerns service id := by
  by_cases h : ∃ service, (id, service) ∈ ({} : Scheduler σ).issued operations
  · obtain ⟨service, hmem⟩ := h
    obtain ⟨before, command, sequence, later, rfl, rfl⟩ := mem_issued.mp hmem
    let s := (({} : Scheduler σ).run before).1
    let t : Task σ :=
      { id := (s.schedule service command sequence).1, service, command, sequence, createdAt := s.now }
    have habout := (run_scheduled before later service command sequence).2.trans
      (t.live_spec s.now later).2
    refine ⟨service, ?_⟩
    rw [habout]
    exact t.story_concerns _ _
  · rw [(unissued_spec (not_exists.mp h)).2]
    exact ⟨⟨0⟩, fun e he => nomatch he⟩

end Scheduler

/-! ## The lifecycle -/

/-- The states that a task may enter, one after the other. -/
def Lawful (states : List TaskState) : Prop :=
  states <+: [.running, .completed] ∨ states <+: [.running, .failed] ∨
    states <+: [.running, .cancelled] ∨ states <+: [.cancelled]

namespace Outcome

variable {steps : List StepResult} {written : List Output} {states : List TaskState} {queued : Prop}

theorem lawful (h : Outcome steps written states queued) : Lawful states := by
  cases h with
  | completed shown hsteps hgoes hwritten hstates hqueued => exact .inl (by simp [hstates])
  | failed shown cause hsteps hgoes hwritten hstates hqueued => exact .inr (.inl (by simp [hstates]))
  | cancelled hgoes hwritten hstates hqueued =>
    rw [hstates]
    split
    · exact .inr (.inr (.inr (by simp)))
    · exact .inr (.inr (.inl (by simp)))
  | queued hgoes hwritten hstates hqueued =>
    rw [hstates]
    split <;> exact .inl (by simp)

theorem over_iff (h : Outcome steps written states queued) :
    (∃ state ∈ states, state.isTerminal = true) ↔ ¬ queued := by
  cases h with
  | completed shown hsteps hgoes hwritten hstates hqueued =>
    simp [hstates, hqueued, TaskState.isTerminal]
  | failed shown cause hsteps hgoes hwritten hstates hqueued =>
    simp [hstates, hqueued, TaskState.isTerminal]
  | cancelled hgoes hwritten hstates hqueued => simp [hstates, hqueued, TaskState.isTerminal]
  | queued hgoes hwritten hstates hqueued =>
    rw [hstates]
    split <;> simp [hqueued, TaskState.isTerminal]

end Outcome

/-- Whether a task has entered a state in which it is over. -/
def Over (trace : Trace) (id : TaskId) : Prop :=
  ∃ state ∈ (trace.about id).states, state.isTerminal = true

namespace Scheduler

variable {operations : List (Operation σ)} {id : TaskId} {service : Service}

theorem issued_of_mem_queue {t : Task σ} (ht : t ∈ (({} : Scheduler σ).run operations).1.queue) :
    (({} : Scheduler σ).run operations).1.task? t.id = some t ∧
      (t.id, t.service) ∈ ({} : Scheduler σ).issued operations := by
  have hqueued := (task?_eq_some_iff (run_numbered numbered_empty operations)).mpr ⟨ht, rfl⟩
  refine ⟨hqueued, Classical.byContradiction fun hnot => ?_⟩
  have hnone : ∀ service, (t.id, service) ∉ ({} : Scheduler σ).issued operations := by
    intro service hmem
    obtain ⟨rfl, -⟩ := (issued_spec hmem).2 t hqueued
    exact hnot hmem
  have := (unissued_spec hnone).1
  rw [hqueued] at this
  cases this

theorem over_iff_of_issued (h : (id, service) ∈ ({} : Scheduler σ).issued operations) :
    Over (({} : Scheduler σ).run operations).2 id ↔
      ∀ t ∈ (({} : Scheduler σ).run operations).1.queue, t.id ≠ id := by
  rw [Over, (issued_spec h).1.over_iff, isSome_task?_iff]
  simp only [not_exists, not_and, ne_eq]

theorem not_over_of_unissued (h : ¬ ∃ service, (id, service) ∈ ({} : Scheduler σ).issued operations) :
    ¬ Over (({} : Scheduler σ).run operations).2 id := by
  rw [Over, (unissued_spec (not_exists.mp h)).2]
  rintro ⟨state, hstate, -⟩
  cases hstate

end Scheduler

/-- How the queue, the numbers that were given out and the transitions agree after a run. -/
structure Lifecycle (s : Scheduler σ) (trace : Trace) (issued : List (TaskId × Service)) : Prop where
  distinct : (s.queue.map (·.id)).Nodup
  increasing : issued.Pairwise fun a b => a.1.number < b.1.number
  history : ∀ id, Lawful (trace.about id).states
  ended : ∀ id, Over trace id ↔ (∃ service, (id, service) ∈ issued) ∧ ∀ t ∈ s.queue, t.id ≠ id
  pending : ∀ t ∈ s.queue, t.state = .pending ↔ (trace.about t.id).steps = []
  busy : ∀ service, s.isBusy service = true ↔ ∃ id, (id, service) ∈ issued ∧ ¬ Over trace id

theorem tasks_follow_lifecycle (operations : List (Operation σ)) :
    let (s, trace) := ({} : Scheduler σ).run operations
    Lifecycle s trace (({} : Scheduler σ).issued operations) := by
  have hnumbered := Scheduler.run_numbered Scheduler.numbered_empty operations
  constructor
  · exact List.pairwise_map.mpr hnumbered.distinct
  · have := List.pairwise_lt_range' (s := 1) (n := (({} : Scheduler σ).issued operations).length)
    rw [← Scheduler.issued_numbers ({} : Scheduler σ) operations] at this
    exact List.pairwise_map.mp this
  · intro id
    by_cases h : ∃ service, (id, service) ∈ ({} : Scheduler σ).issued operations
    · obtain ⟨service, hmem⟩ := h
      exact (Scheduler.issued_spec hmem).1.lawful
    · rw [(Scheduler.unissued_spec (not_exists.mp h)).2]
      exact .inl List.nil_prefix
  · intro id
    by_cases h : ∃ service, (id, service) ∈ ({} : Scheduler σ).issued operations
    · obtain ⟨service, hmem⟩ := h
      rw [Scheduler.over_iff_of_issued hmem]
      exact ⟨fun hgone => ⟨⟨service, hmem⟩, hgone⟩, And.right⟩
    · exact ⟨fun hover => absurd hover (Scheduler.not_over_of_unissued h), fun hend => absurd hend.1 h⟩
  · intro t ht
    obtain ⟨hqueued, hmem⟩ := Scheduler.issued_of_mem_queue ht
    exact ((Scheduler.issued_spec hmem).2 t hqueued).2
  · intro service
    simp only [Scheduler.isBusy, List.any_eq_true, decide_eq_true_eq]
    constructor
    · rintro ⟨t, ht, rfl⟩
      have hmem := (Scheduler.issued_of_mem_queue ht).2
      exact ⟨t.id, hmem, fun hover => (Scheduler.over_iff_of_issued hmem).mp hover t ht rfl⟩
    · rintro ⟨id, hmem, hgoes⟩
      obtain ⟨t, ht, hid⟩ : ∃ t ∈ (({} : Scheduler σ).run operations).1.queue, t.id = id := by
        simpa [Scheduler.over_iff_of_issued hmem] using hgoes
      obtain rfl := hid
      exact ⟨t, ht, ((Scheduler.issued_spec hmem).2 t (Scheduler.issued_of_mem_queue ht).1).1⟩

end RouteServer.Schedule
