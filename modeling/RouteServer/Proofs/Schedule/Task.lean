import RouteServer.Proofs.Schedule.Output
import RouteServer.Proofs.Trace
import RouteServer.Schedule.Scheduler

/-! # The life of one task

What operations on a scheduler do to a task does not depend on the other tasks: even a tick, in which the tasks
leave the front of the queue one after the other, gives each task its own step (`tick_eq`). `Task.live` follows
one task alone, and `Task.live_spec` says what is left of it and what is seen of it.
-/

namespace RouteServer.Schedule

variable {σ : Type}

/-! ## Operations -/

/-- Something that is done with a scheduler: a task is queued, all tasks get a step, the tasks of a client
are dropped, or time passes. -/
inductive Operation (σ : Type) where
  | schedule (service : Service) (command : String) (sequence : σ)
  | tick (connected : Service → Bool) (context : StepContext)
  | cancel (service : Service)
  | elapse (milliseconds : Nat)

namespace Operation

/-- Whether the queued tasks of a client go on. -/
def spares (service : Service) : Operation σ → Bool
  | tick connected _ => connected service
  | cancel other => other ≠ service
  | schedule .. | elapse _ => true

def context? : Operation σ → Option StepContext
  | tick _ context => some context
  | _ => none

/-- The contexts in which a queued task of the client is stepped, as long as its output lasts. -/
def served (service : Service) (operations : List (Operation σ)) : List StepContext :=
  (operations.takeWhile (spares service)).filterMap context?

theorem served_of_spares {service : Service} {operation : Operation σ}
    (h : operation.spares service = true) (later : List (Operation σ)) :
    served service (operation :: later) = operation.context?.toList ++ served service later := by
  rw [served, List.takeWhile_cons_of_pos h]
  cases hc : operation.context? with
  | none => rw [List.filterMap_cons_none hc]; rfl
  | some context => rw [List.filterMap_cons_some hc]; rfl

theorem served_of_not_spares {service : Service} {operation : Operation σ}
    (h : operation.spares service = false) (later : List (Operation σ)) :
    served service (operation :: later) = [] := by
  rw [served, List.takeWhile_cons_of_neg (by simp [h])]
  rfl

/-- The present moment after an operation. -/
def clock (now : Nat) : Operation σ → Nat
  | elapse milliseconds => now + milliseconds
  | _ => now

end Operation

namespace Task

/-- What is seen of a task for one answer of its output. -/
def shown (t : Task σ) (r : StepResult) : Trace :=
  .stepped t.id r :: r.output.map (.wrote t.service (some t.id))

/-- What is seen of a task when it begins to run. -/
def starting (t : Task σ) : Trace := if t.state = .pending then [t.enter .running] else []

/-- What is seen of a task by the answers of its output and its last state. -/
def story (t : Task σ) (results : List StepResult) (last : Option TaskState) : Trace :=
  (if results = [] then [] else t.starting) ++ results.flatMap t.shown ++ last.toList.map t.enter

/-- A queued task after its output has been stepped. -/
def after (t : Task σ) (contexts : List StepContext) (rest : σ) : Task σ :=
  { t with state := if contexts = [] then t.state else .running, sequence := rest }

theorem after_running (t : Task σ) (next : σ) (context : StepContext) (contexts : List StepContext) :
    after { t with state := .running, sequence := next } contexts = t.after (context :: contexts) := by
  funext rest
  simp [after]

theorem story_running (t : Task σ) (next : σ) (results : List StepResult) (last : Option TaskState) :
    story { t with state := .running, sequence := next } results last =
      results.flatMap t.shown ++ last.toList.map t.enter := by
  simp [story, starting]
  rfl

/-! ## One operation -/

variable [OutputSequence σ]

/-- What an operation makes of a queued task. -/
def undergo (now : Nat) (t : Task σ) : Operation σ → Option (Task σ) × Trace
  | .tick connected context => t.advance connected context now
  | .cancel service => if t.service = service then (none, [t.enter .cancelled]) else (some t, [])
  | .schedule .. | .elapse _ => (some t, [])

theorem advance_of_gone {connected : Service → Bool} {t : Task σ} (context : StepContext) (now : Nat)
    (h : connected t.service = false) :
    (t.advance connected context now).1 = none ∧
      (t.advance connected context now).2.about t.id = [t.enter .cancelled] := by
  simp [advance, h, Trace.about, Event.task?, enter, note]

theorem advance_of_connected {connected : Service → Bool} {t : Task σ} (context : StepContext)
    (now : Nat) (h : connected t.service = true) :
    let (result, next) := OutputSequence.step context t.sequence
    (t.advance connected context now).1 =
        (if StepResult.ends result then none
          else some { t with state := .running, sequence := next }) ∧
      (t.advance connected context now).2.about t.id =
        t.starting ++ t.shown result ++ (StepResult.closing result).toList.map t.enter := by
  have hstart : Trace.about (if t.state = .pending then [t.enter .running] else []) t.id =
      t.starting := by
    unfold starting
    split <;> simp [Trace.about, Event.task?, enter]
  unfold advance
  rw [if_neg (by simp [h])]
  rcases hstep : OutputSequence.step context t.sequence with ⟨cause | (text | _ | _), next⟩
  all_goals
    simp [StepResult.ends, StepResult.closing, StepResult.output, shown, hstart]
    simp [Trace.about, Event.task?, enter, note]

/-- All that an operation can do to a queued task: drop it, leave it alone or step its output. -/
theorem undergo_cases (t : Task σ) (now : Nat) (operation : Operation σ) :
    (operation.spares t.service = false ∧ (t.undergo now operation).1 = none ∧
      (t.undergo now operation).2.about t.id = [t.enter .cancelled]) ∨
    (operation.spares t.service = true ∧ operation.context? = none ∧
      t.undergo now operation = (some t, [])) ∨
    (∃ context, operation.spares t.service = true ∧ operation.context? = some context ∧
      let (result, next) := OutputSequence.step context t.sequence
      (t.undergo now operation).1 =
          (if StepResult.ends result then none
            else some { t with state := .running, sequence := next }) ∧
        (t.undergo now operation).2.about t.id =
          t.starting ++ t.shown result ++ (StepResult.closing result).toList.map t.enter) := by
  cases operation with
  | schedule service command sequence => exact Or.inr (Or.inl ⟨rfl, rfl, rfl⟩)
  | tick connected context =>
    cases h : connected t.service with
    | false => exact Or.inl ⟨h, advance_of_gone context now h⟩
    | true => exact Or.inr (Or.inr ⟨context, h, rfl, advance_of_connected context now h⟩)
  | cancel service =>
    by_cases h : t.service = service
    · refine Or.inl ⟨by simp [Operation.spares, h], ?_⟩
      simp [undergo, h, Trace.about, Event.task?, enter]
    · refine Or.inr (Or.inl ⟨by simp [Operation.spares, Ne.symm h], rfl, ?_⟩)
      simp [undergo, h]
  | elapse milliseconds => exact Or.inr (Or.inl ⟨rfl, rfl, rfl⟩)

theorem undergo_keeps {t next : Task σ} {now : Nat} {operation : Operation σ}
    (h : (t.undergo now operation).1 = some next) : next.id = t.id ∧ next.service = t.service := by
  rcases t.undergo_cases now operation with ⟨-, hleft, -⟩ | ⟨-, -, hu⟩ | ⟨context, -, -, hleft, -⟩
  · simp [hleft] at h
  · rw [hu, Option.some.injEq] at h
    exact h ▸ ⟨rfl, rfl⟩
  · rw [hleft] at h
    split at h
    · cases h
    · rw [Option.some.injEq] at h
      exact h ▸ ⟨rfl, rfl⟩

theorem advance_concerns (connected : Service → Bool) (context : StepContext) (now : Nat) (t : Task σ) :
    ∀ e ∈ (t.advance connected context now).2, e.Concerns t.service t.id := by
  have hstart : ∀ e ∈ (if t.state = .pending then [t.enter .running] else []),
      e.Concerns t.service t.id := by
    intro e he
    split at he
    · obtain rfl := List.mem_singleton.mp he
      exact ⟨rfl, rfl⟩
    · cases he
  unfold advance
  split
  · simp [Event.Concerns, enter, note]
  · rcases OutputSequence.step context t.sequence with ⟨cause | (text | _ | _), next⟩
    all_goals
      intro e he
      simp only [List.mem_append, or_assoc] at he
      rcases he with he | he
      · exact hstart e he
      · revert e
        simp [Event.Concerns, enter, note]

theorem undergo_concerns (t : Task σ) (now : Nat) (operation : Operation σ) :
    ∀ e ∈ (t.undergo now operation).2, e.Concerns t.service t.id := by
  intro e he
  cases operation with
  | schedule service command sequence => simp [undergo] at he
  | tick connected context => exact advance_concerns connected context now t e he
  | cancel service =>
    simp only [undergo] at he
    split at he
    · obtain rfl := List.mem_singleton.mp he
      exact ⟨rfl, rfl⟩
    · cases he
  | elapse milliseconds => simp [undergo] at he

/-! ## A whole life -/

/-- What becomes of a queued task. -/
def live (now : Nat) (t : Task σ) : List (Operation σ) → Option (Task σ) × Trace
  | [] => (some t, [])
  | operation :: later =>
    match t.undergo now operation with
    | (none, trace) => (none, trace)
    | (some next, trace) =>
      let (left, more) := next.live (operation.clock now) later
      (left, trace ++ more)

/-- The last state of a task by the answers of its output, if it is over. -/
def ending (results : List StepResult) (spared : Bool) : Option TaskState :=
  (results.findSome? StepResult.closing).or (if spared then none else some .cancelled)

theorem ending_of_ends {result : StepResult} (h : result.ends = true) (spared : Bool) :
    ending [result] spared = result.closing := by
  obtain ⟨state, hs⟩ := Option.isSome_iff_exists.mp h
  simp [ending, hs]

theorem ending_cons {result : StepResult} (h : result.ends = false) (results : List StepResult)
    (spared : Bool) : ending (result :: results) spared = ending results spared := by
  simp [ending, StepResult.closing_eq_none h]

/-- What is left of a task, and what is seen of it: everything is decided by its output, by the contexts
in which it is stepped, and by whether its client's tasks are dropped. -/
theorem live_spec (t : Task σ) (now : Nat) (operations : List (Operation σ)) :
    let contexts := Operation.served t.service operations
    let results := replies t.sequence contexts
    let spared := operations.all (·.spares t.service)
    (t.live now operations).1 =
        (if spared then (residue t.sequence contexts).map (t.after contexts) else none) ∧
      (t.live now operations).2.about t.id = t.story results (ending results spared) := by
  induction operations generalizing t now with
  | nil => simp [live, Operation.served, residue, replies, after, story, ending]
  | cons operation later ih =>
    rw [live]
    rcases t.undergo_cases now operation with ⟨hs, hleft, hseen⟩ | ⟨hs, hc, hu⟩ | ⟨context, hs, hc, hu⟩
    · simp only [Operation.served_of_not_spares hs, List.all_cons, hs, Bool.false_and]
      rcases hp : t.undergo now operation with ⟨left, trace⟩
      rw [hp] at hleft hseen
      obtain rfl : left = none := hleft
      exact ⟨rfl, by simpa [story, ending, replies] using hseen⟩
    · simp only [Operation.served_of_spares hs, List.all_cons, hs, Bool.true_and, hc, hu]
      exact ih t _
    · simp only [Operation.served_of_spares hs, List.all_cons, hs, Bool.true_and, hc,
        Option.toList_some, List.singleton_append, replies, residue]
      rcases hp : t.undergo now operation with ⟨left, trace⟩
      rcases hstep : OutputSequence.step context t.sequence with ⟨result, next⟩
      rw [hp, hstep] at hu
      obtain ⟨hleft, hseen⟩ := hu
      cases hends : StepResult.ends result with
      | true =>
        rw [hends, if_pos rfl] at hleft
        obtain rfl : left = none := hleft
        refine ⟨by simp, ?_⟩
        simp only [if_true, ending_of_ends hends]
        rw [hseen, story, if_neg (List.cons_ne_nil _ _), List.flatMap_singleton]
      | false =>
        rw [hends, if_neg Bool.false_ne_true] at hleft
        obtain rfl : left = some { t with state := .running, sequence := next } := hleft
        obtain ⟨ihleft, ihseen⟩ := ih { t with state := .running, sequence := next } (operation.clock now)
        rw [after_running t next context] at ihleft
        refine ⟨ihleft, (Trace.about_append _ _ _).trans ?_⟩
        refine (congr (congrArg HAppend.hAppend hseen) ihseen).trans ?_
        simp only [Bool.false_eq_true, if_false, ending_cons hends, StepResult.closing_eq_none hends,
          story_running]
        simp [story]

end Task

/-! ## The queue in a tick -/

namespace Scheduler

variable [OutputSequence σ]

theorem rotate_of_cons {s : Scheduler σ} {t : Task σ} {rest : List (Task σ)} (h : s.queue = t :: rest)
    (connected : Service → Bool) (context : StepContext) :
    s.rotate connected context =
      ({ s with queue := rest ++ (t.advance connected context s.now).1.toList },
        (t.advance connected context s.now).2) := by
  rw [rotate, h]

theorem rotations_front {s : Scheduler σ} {front behind : List (Task σ)} (h : s.queue = front ++ behind)
    (connected : Service → Bool) (context : StepContext) :
    s.rotations connected context front.length =
      ({ s with queue := behind ++ front.filterMap fun t => (t.advance connected context s.now).1 },
        front.flatMap fun t => (t.advance connected context s.now).2) := by
  -- A task that goes on joins what is behind the front, and waits there for the next tick.
  induction front generalizing s behind with
  | nil =>
    rw [List.nil_append] at h
    simp [rotations, ← h]
  | cons t rest ih =>
    have hqueue : behind ++ (t.advance connected context s.now).1.toList ++
          rest.filterMap (fun t => (t.advance connected context s.now).1) =
        behind ++ (t :: rest).filterMap fun t => (t.advance connected context s.now).1 := by
      rw [List.append_assoc, List.filterMap_cons]
      cases (t.advance connected context s.now).1 <;> rfl
    let next := { s with queue := rest ++ behind ++ (t.advance connected context s.now).1.toList }
    have hrest := ih (show next.queue = _ from List.append_assoc ..)
    rw [hqueue] at hrest
    rw [List.length_cons, rotations, rotate_of_cons h, List.flatMap_cons]
    exact congrArg (fun r => (r.1, (t.advance connected context s.now).2 ++ r.2)) hrest

/-- A tick steps every task of the queue it begins with once, in order, and keeps those that are not over. -/
theorem tick_eq (s : Scheduler σ) (connected : Service → Bool) (context : StepContext) :
    s.tick connected context =
      ({ s with queue := s.queue.filterMap fun t => (t.advance connected context s.now).1 },
        s.queue.flatMap fun t => (t.advance connected context s.now).2) :=
  rotations_front (List.append_nil s.queue).symm connected context

end Scheduler

end RouteServer.Schedule
