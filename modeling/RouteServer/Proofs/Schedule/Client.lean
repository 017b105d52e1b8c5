import RouteServer.Proofs.Schedule.Task

/-! # The outputs that are under way for one client

What the scheduler does for one client depends on the tasks of that client alone.
-/

namespace RouteServer.Schedule

variable {σ : Type} [OutputSequence σ]

/-- What a step leaves of an output, if it does not end it. -/
def proceed (context : StepContext) (sequence : σ) : Option σ :=
  if StepResult.ends (OutputSequence.step context sequence).1 then none
  else some (OutputSequence.step context sequence).2

/-- What a step writes. -/
def given (context : StepContext) (sequence : σ) : List Output :=
  StepResult.output (OutputSequence.step context sequence).1

namespace Task

variable {connected : Service → Bool} {t : Task σ}

theorem advance_keeps {context : StepContext} {now : Nat} {next : Task σ}
    (h : (t.advance connected context now).1 = some next) : next.service = t.service :=
  (undergo_keeps (show (t.undergo now (.tick connected context)).1 = some next from h)).2

theorem advance_proceeds (context : StepContext) (now : Nat) (h : connected t.service = true) :
    (t.advance connected context now).1.map (·.sequence) = proceed context t.sequence := by
  rw [(advance_of_connected context now h).1, proceed, apply_ite (Option.map Task.sequence)]
  rfl

theorem advance_traffic (context : StepContext) (now : Nat) (service : Service) :
    (t.advance connected context now).2.traffic service =
      if service = t.service ∧ connected service = true then { written := given context t.sequence }
      else {} := by
  have hstart : ∀ r, Trace.traffic ((if t.state = .pending then [t.enter .running] else []) ++
      [.stepped t.id r]) service = {} := by
    intro r
    split <;> rfl
  cases h : connected t.service with
  | false =>
    have hquiet : Trace.Quiet (t.advance connected context now).2 := by
      simp [advance, h, Trace.Quiet, enter, note]
    rw [hquiet.traffic, if_neg]
    rintro ⟨rfl, hconnected⟩
    rw [h] at hconnected
    cases hconnected
  | true =>
    have hwho : (service = t.service ∧ connected service = true) = (service = t.service) := by
      rw [eq_iff_iff]
      exact ⟨And.left, fun heq => ⟨heq, heq ▸ h⟩⟩
    have hwrote := fun output => Trace.traffic_wrote t.service (some t.id) output service
    simp only [hwho]
    unfold advance given
    rw [if_neg (by simp [h])]
    rcases OutputSequence.step context t.sequence with ⟨cause | (text | _ | _), next⟩
    case ok.idle =>
      simp only [hstart]
      split <;> rfl
    all_goals
      simp only [Trace.traffic_append, hstart, Traffic.empty_append]
      exact hwrote _

end Task

namespace Scheduler

variable (s : Scheduler σ) (service other : Service)

/-- The tasks of a client. -/
def tasksOf : List (Task σ) := s.queue.filter fun t => t.service = service

/-- The outputs that are under way for a client. -/
def outputsOf : List σ := (s.queue.filter fun t => t.service = service).map (·.sequence)

omit [OutputSequence σ] in
theorem isBusy_iff : s.isBusy service = true ↔ s.tasksOf service ≠ [] := by
  simp [isBusy, tasksOf]

omit [OutputSequence σ] in
theorem isBusy_eq_false : s.isBusy service = false ↔ s.outputsOf service = [] := by
  simp [isBusy, outputsOf]

omit [OutputSequence σ] in
theorem outputsOf_schedule (command : String) (sequence : σ) :
    (s.schedule service command sequence).2.1.outputsOf other =
      if other = service then s.outputsOf other ++ [sequence] else s.outputsOf other := by
  by_cases h : service = other
  · simp [schedule, outputsOf, h]
  · simp [schedule, outputsOf, h, Ne.symm h]

omit [OutputSequence σ] in
theorem tasksOf_cancelFor : (s.cancelFor service).1.tasksOf other =
    if other = service then [] else s.tasksOf other := by
  simp only [cancelFor, tasksOf, List.filter_filter]
  by_cases h : other = service
  · subst h
    simp
  · rw [if_neg h]
    congr 1
    funext t
    by_cases ht : t.service = other <;> simp [ht, h]

omit [OutputSequence σ] in
theorem outputsOf_cancelFor : (s.cancelFor service).1.outputsOf other =
    if other = service then [] else s.outputsOf other := by
  have htasks := congrArg (List.map (·.sequence)) (s.tasksOf_cancelFor service other)
  rwa [apply_ite (List.map _), List.map_nil] at htasks

omit [OutputSequence σ] in
theorem cancelFor_quiet : Trace.Quiet (s.cancelFor service).2 := by
  intro e he
  simp only [cancelFor, List.mem_append, List.mem_map] at he
  rcases he with ⟨t, -, rfl⟩ | he
  · trivial
  · split at he
    · cases he
    · obtain rfl := List.mem_singleton.mp he
      trivial

theorem outputsOf_tick (connected : Service → Bool) (context : StepContext) :
    (s.tick connected context).1.outputsOf service =
      if connected service then (s.outputsOf service).filterMap (proceed context) else [] := by
  simp only [tick_eq, outputsOf]
  induction s.queue with
  | nil => simp
  | cons t rest ih =>
    by_cases ht : t.service = service
    · rw [List.filter_cons_of_pos (by simpa using ht), List.map_cons]
      cases h : connected service with
      | false =>
        have hleft := (Task.advance_of_gone context s.now (ht ▸ h)).1
        rw [List.filterMap_cons, hleft, ih, h, if_neg Bool.false_ne_true, if_neg Bool.false_ne_true]
      | true =>
        have hproceeds := Task.advance_proceeds context s.now (ht ▸ h)
        cases hleft : (t.advance connected context s.now).1 with
        | none =>
          rw [hleft] at hproceeds
          rw [List.filterMap_cons, hleft, ih, h, if_pos rfl, if_pos rfl,
            List.filterMap_cons_none hproceeds.symm]
        | some next =>
          rw [hleft] at hproceeds
          have hnext : next.service = service := (Task.advance_keeps hleft).trans ht
          rw [List.filterMap_cons, hleft, List.filter_cons_of_pos (by simpa using hnext),
            List.map_cons, ih, h, if_pos rfl, if_pos rfl, List.filterMap_cons_some hproceeds.symm]
    · rw [List.filter_cons_of_neg (by simpa using ht), ← ih]
      cases hleft : (t.advance connected context s.now).1 with
      | none => rw [List.filterMap_cons, hleft]
      | some next =>
        have hnext : next.service ≠ service := fun heq => ht ((Task.advance_keeps hleft).symm.trans heq)
        rw [List.filterMap_cons, hleft, List.filter_cons_of_neg (by simpa using hnext)]

theorem tick_traffic (connected : Service → Bool) (context : StepContext) :
    (s.tick connected context).2.traffic service =
      if connected service then { written := (s.outputsOf service).flatMap (given context) }
      else {} := by
  simp only [tick_eq, outputsOf]
  induction s.queue with
  | nil => simp
  | cons t rest ih =>
    rw [List.flatMap_cons, Trace.traffic_append, ih, Task.advance_traffic]
    by_cases ht : t.service = service
    · subst ht
      cases connected t.service <;> simp
      rfl
    · rw [List.filter_cons_of_neg (by simpa using ht), if_neg (by simp [Ne.symm ht])]
      rfl

end Scheduler

end RouteServer.Schedule
