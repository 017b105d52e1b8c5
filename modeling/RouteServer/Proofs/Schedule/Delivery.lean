import RouteServer.Proofs.Schedule.Run

/-! # Delivery of scheduled output

What is written for a task are the lines that the steps of its own output give, each once and in order,
and behind them one marker when the output has ended. Nothing is written, and no step is made, after that,
after the task has been cancelled, or while the client is not connected.
-/

namespace RouteServer.Schedule

/-! ## What a story shows -/

namespace Task

variable {σ : Type} (t : Task σ) (results : List StepResult) (last : Option TaskState)

theorem steps_story : (t.story results last).steps = results := by
  have hstart : Trace.steps (if results = [] then [] else t.starting) = [] := by
    unfold starting
    split
    · rfl
    · split <;> rfl
  have hshown : ∀ r, Trace.steps (t.shown r) = [r] := by simp [shown, Trace.steps]
  have hlast : Trace.steps (last.toList.map t.enter) = [] := by cases last <;> rfl
  rw [story, Trace.steps_append, Trace.steps_append, hstart, hlast, Trace.steps_flatMap]
  simp [hshown]

theorem written_story : (t.story results last).written =
    (results.flatMap StepResult.output).map (t.service, ·) := by
  have hstart : Trace.written (if results = [] then [] else t.starting) = [] := by
    unfold starting
    split
    · rfl
    · split <;> rfl
  have hshown : ∀ r, Trace.written (t.shown r) = (StepResult.output r).map (t.service, ·) := by
    intro r
    rw [shown, Trace.written, List.filterMap_cons_none rfl, List.filterMap_map]
    exact congrFun List.filterMap_eq_map r.output
  have hlast : Trace.written (last.toList.map t.enter) = [] := by cases last <;> rfl
  rw [story, Trace.written_append, Trace.written_append, hstart, hlast, Trace.written_flatMap]
  simp [hshown, List.map_flatMap]

theorem states_story (h : t.state = .pending) : (t.story results last).states =
    (if results = [] then [] else [.running]) ++ last.toList := by
  have hstart : Trace.states (if results = [] then [] else t.starting) =
      if results = [] then [] else [.running] := by
    rw [starting, if_pos h]
    split <;> rfl
  have hshown : ∀ r, Trace.states (t.shown r) = [] := by
    simp [shown, Trace.states, Trace.transitions]
  have hlast : Trace.states (last.toList.map t.enter) = last.toList := by cases last <;> rfl
  rw [story, Trace.states_append, Trace.states_append, hstart, hlast, Trace.states_flatMap]
  simp [hshown]

theorem story_concerns : ∀ e ∈ t.story results last, e.Concerns t.service t.id := by
  intro e he
  simp only [story, List.mem_append, List.mem_flatMap, List.mem_map] at he
  rcases he with (he | ⟨r, -, he⟩) | ⟨state, -, rfl⟩
  · unfold starting at he
    split at he
    · cases he
    · split at he
      · obtain rfl := List.mem_singleton.mp he
        exact ⟨rfl, rfl⟩
      · cases he
  · rcases List.mem_cons.mp he with rfl | he
    · rfl
    · obtain ⟨output, -, rfl⟩ := List.mem_map.mp he
      exact ⟨rfl, rfl⟩
  · exact ⟨rfl, rfl⟩

end Task

/-! ## How far an output has come -/

/-- How far the output of a task has come, by the answers to its steps, what has been written for it, the
states it has entered, and whether it is still queued. -/
inductive Outcome (steps : List StepResult) (written : List Output) (states : List TaskState)
    (queued : Prop) : Prop
  /-- Its last step has exhausted the output, and one `done` ends what is written. -/
  | completed (shown : List StepResult) (hsteps : steps = shown ++ [.ok .exhausted])
    (hgoes : ∀ r ∈ shown, StepResult.ends r = false)
    (hwritten : written = (lines shown).map .line ++ [.marker .done])
    (hstates : states = [.running, .completed]) (hqueued : ¬ queued)
  /-- Its last step has failed, and one `error` ends what is written. -/
  | failed (shown : List StepResult) (cause : Command.CommandError)
    (hsteps : steps = shown ++ [.error cause]) (hgoes : ∀ r ∈ shown, StepResult.ends r = false)
    (hwritten : written = (lines shown).map .line ++ [.marker .error])
    (hstates : states = [.running, .failed]) (hqueued : ¬ queued)
  /-- It has been cancelled before its output ended, and there is no marker. -/
  | cancelled (hgoes : ∀ r ∈ steps, StepResult.ends r = false)
    (hwritten : written = (lines steps).map .line)
    (hstates : states = (if steps = [] then [] else [.running]) ++ [.cancelled]) (hqueued : ¬ queued)
  /-- It is queued, and there is no marker yet. -/
  | queued (hgoes : ∀ r ∈ steps, StepResult.ends r = false)
    (hwritten : written = (lines steps).map .line)
    (hstates : states = if steps = [] then [] else [.running]) (hqueued : queued)

variable {σ : Type} [OutputSequence σ]

/-- A life ends in one of four ways. -/
theorem Task.outcome_live (t : Task σ) (now : Nat) (later : List (Operation σ))
    (h : t.state = .pending) :
    let trace := (t.live now later).2.about t.id
    Outcome trace.steps (trace.written.map (·.2)) trace.states
      (((t.live now later).1).isSome = true) := by
  obtain ⟨hleft, hseen⟩ := t.live_spec now later
  intro trace
  have hwritten : trace.written.map (·.2) =
      (replies t.sequence (Operation.served t.service later)).flatMap StepResult.output := by
    rw [show trace = _ from hseen, written_story, List.map_map]
    exact List.map_id' _
  have hsteps := (congrArg Trace.steps hseen).trans (t.steps_story _ _)
  have hstates := (congrArg Trace.states hseen).trans (t.states_story _ _ h)
  rw [hwritten, hsteps, hstates, hleft]
  rcases replies_cases t.sequence (Operation.served t.service later) with
    ⟨rest, hrest, hall⟩ | ⟨hnone, shown, result, hreplies, hends, hall⟩
  · rw [flatMap_output hall, hrest]
    have hclosing : (replies t.sequence (Operation.served t.service later)).findSome?
        StepResult.closing = none := by
      rw [List.findSome?_eq_none_iff]
      exact fun r hr => StepResult.closing_eq_none (hall r hr)
    cases hspared : later.all (·.spares t.service) with
    | true => exact .queued hall rfl (by simp [ending, hclosing]) (by simp)
    | false => exact .cancelled hall rfl (by simp [ending, hclosing]) (by simp)
  · have hclosing : shown.findSome? StepResult.closing = none := by
      rw [List.findSome?_eq_none_iff]
      exact fun r hr => StepResult.closing_eq_none (hall r hr)
    rw [hreplies, hnone, List.flatMap_append, flatMap_output hall, if_neg (by simp)]
    rcases StepResult.eq_of_ends hends with rfl | ⟨cause, rfl⟩
    · refine .completed shown rfl hall rfl ?_ (by simp)
      simp [ending, hclosing, StepResult.closing]
    · refine .failed shown cause rfl hall rfl ?_ (by simp)
      simp [ending, hclosing, StepResult.closing]

/-! ## Nothing after the end -/

/-- An event that ends the output of a task: its last step, or its last state. -/
inductive Closes (id : TaskId) : Event → Prop
  | step (result : StepResult) (hends : result.ends = true) : Closes id (.stepped id result)
  | state (service : Service) (state : TaskState) (hterminal : state.isTerminal = true) :
    Closes id (.transition ⟨id, service, state⟩)

theorem Closes.task?_eq {id : TaskId} {e : Event} (h : Closes id e) : e.task? = some id := by
  cases h <;> rfl

theorem replies_over {sequence : σ} {contexts : List StepContext} {early late : List StepResult}
    {r : StepResult} (h : replies sequence contexts = early ++ r :: late) (hr : r.ends = true) :
    late = [] := by
  rcases replies_cases sequence contexts with ⟨-, -, hall⟩ | ⟨-, shown, last, hreplies, -, hall⟩
  · have := hall r (h ▸ List.mem_append_right _ List.mem_cons_self)
    rw [hr] at this
    cases this
  · rw [h] at hreplies
    rcases List.eq_nil_or_concat late with rfl | ⟨rest, x, rfl⟩
    · rfl
    · rw [List.concat_eq_append, ← List.cons_append, ← List.append_assoc] at hreplies
      have hmem := (List.append_inj_left' hreplies rfl) ▸ List.mem_append_right early List.mem_cons_self
      have := hall r hmem
      rw [hr] at this
      cases this

omit [OutputSequence σ] in
theorem Task.transition_notMem (t : Task σ) (results : List StepResult) {x : Transition}
    (hx : x.state.isTerminal = true) :
    .transition x ∉ (if results = [] then [] else t.starting) ++ results.flatMap t.shown := by
  have hrunning : x ≠ ⟨t.id, t.service, .running⟩ := by
    rintro rfl
    cases hx
  unfold starting shown
  split <;> (try split) <;> simp [enter, hrunning]

theorem Task.story_over (t : Task σ) (contexts : List StepContext) (last : Option TaskState)
    {early late : Trace} {e : Event} (he : Closes t.id e)
    (h : t.story (replies t.sequence contexts) last = early ++ e :: late) : late.steps = [] := by
  cases he with
  | step result hends =>
    have hsteps := (t.steps_story _ last).symm.trans (congrArg Trace.steps h)
    rw [Trace.steps_append] at hsteps
    exact replies_over hsteps hends
  | state service state hterminal =>
    -- All but the last event of the story come before any terminal state, so nothing follows it.
    have hlate : late = [] := by
      rw [story] at h
      rcases List.append_eq_append_iff.mp h with ⟨middle, -, hlast⟩ | ⟨middle, hstory, hlate⟩
      · cases last <;> cases middle <;> simp_all
      · cases middle with
        | nil => cases last <;> simp_all
        | cons first rest =>
          obtain ⟨rfl, -⟩ := List.cons.inj hlate
          exact absurd (hstory ▸ List.mem_append_right _ List.mem_cons_self)
            (t.transition_notMem _ hterminal)
    rw [hlate]
    rfl

/-! ## Delivery -/

theorem Scheduler.connected_of_mem_written {s : Scheduler σ} {connected : Service → Bool}
    {context : StepContext} {w : Service × Output} (hw : w ∈ (s.tick connected context).2.written) :
    connected w.1 = true := by
  obtain ⟨task, he⟩ := Trace.mem_written.mp hw
  simp only [tick_eq, List.mem_flatMap] at he
  obtain ⟨t, -, he⟩ := he
  cases h : connected t.service with
  | true => exact (t.advance_concerns connected context s.now _ he).1 ▸ h
  | false => simp [Task.advance, h, Task.enter, Task.note] at he

/-- What the run of `operations` shows of a task for `service` that was scheduled just before `later`. -/
structure Delivered (operations later : List (Operation σ)) (id : TaskId) (service : Service)
    (sequence : σ) (last : Scheduler σ) (trace : Trace) : Prop where
  /-- Its steps are the steps of its own output, one for each tick up to the end of the output or until
  its client's tasks are dropped. -/
  steps : (trace.about id).steps = replies sequence (Operation.served service later)
  /-- The lines of its steps are written in order, each once, and a marker tells how it has ended. -/
  outcome : Outcome (trace.about id).steps ((trace.about id).written.map (·.2))
    (trace.about id).states (∃ t ∈ last.queue, t.id = id)
  /-- Everything that is written for it is written to its own client. -/
  addressed : ∀ w ∈ (trace.about id).written, w.1 = service
  /-- Its output is not stepped again after its last answer or its last state. -/
  stopped : ∀ (early : Trace) (e : Event) (late : Trace), trace = early ++ e :: late → Closes id e →
    (late.about id).steps = []
  /-- Nothing is written for it in a tick in which its client is not connected. -/
  connected : ∀ early connected context rest, operations = early ++ .tick connected context :: rest →
    connected service = false →
      (((({} : Scheduler σ).run early).1.tick connected context).2.about id).written = []

/-- Every task gets what its own output gives, and nothing else, whatever is done with the others. -/
theorem scheduled_output_delivered (before later : List (Operation σ)) (service : Service)
    (command : String) (sequence : σ) :
    let operations := before ++ .schedule service command sequence :: later
    let id := ((({} : Scheduler σ).run before).1.schedule service command sequence).1
    let (last, trace) := ({} : Scheduler σ).run operations
    Delivered operations later id service sequence last trace := by
  let s := (({} : Scheduler σ).run before).1
  let t : Task σ :=
    { id := (s.schedule service command sequence).1, service, command, sequence, createdAt := s.now }
  intro operations id
  obtain ⟨hleft, hseen⟩ := Scheduler.run_scheduled before later service command sequence
  have habout := hseen.trans (t.live_spec s.now later).2
  have houtcome := t.outcome_live s.now later rfl
  have haddressed : ∀ w ∈ ((({} : Scheduler σ).run operations).2.about id).written,
      w.1 = service := by
    intro w hw
    rw [habout, Task.written_story] at hw
    obtain ⟨output, -, rfl⟩ := List.mem_map.mp hw
    rfl
  constructor
  · rw [habout, Task.steps_story]
  · rw [← Scheduler.isSome_task?_iff, hleft, hseen]
    exact houtcome
  · exact haddressed
  · intro early e late heq he
    rw [heq, Trace.about_append, Trace.about, Trace.about,
      List.filter_cons_of_pos (by simpa using he.task?_eq)] at habout
    exact Task.story_over t _ _ he habout.symm
  · intro early connected context rest heq hgone
    rw [List.eq_nil_iff_forall_not_mem]
    intro w hw
    have hmem : w ∈ ((({} : Scheduler σ).run operations).2.about id).written := by
      rw [heq, Scheduler.run_append, Trace.about_append, Trace.written_append]
      refine List.mem_append_right _ ?_
      rw [Scheduler.run, Trace.about_append, Trace.written_append]
      exact List.mem_append_left _ hw
    have hw' : w ∈ ((({} : Scheduler σ).run early).1.tick connected context).2.written := by
      obtain ⟨task, he⟩ := Trace.mem_written.mp hw
      exact Trace.mem_written.mpr ⟨task, (Trace.mem_about.mp he).1⟩
    have := Scheduler.connected_of_mem_written hw'
    rw [haddressed w hmem, hgone] at this
    cases this

end RouteServer.Schedule
