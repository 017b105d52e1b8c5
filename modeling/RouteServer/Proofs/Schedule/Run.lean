import RouteServer.Proofs.Lists
import RouteServer.Proofs.Schedule.Task

/-! # Runs of the scheduler

A run is any list of operations. Tasks do not disturb each other: by `run_task?`, a run leaves and shows of
each task what it would if the task were alone.
-/

namespace RouteServer.Schedule

variable {σ : Type}

namespace Scheduler

/-- A queued task by its number. -/
def task? (s : Scheduler σ) (id : TaskId) : Option (Task σ) := s.queue.find? fun t => t.id = id

/-- The tasks that an operation brings to the queue. -/
def entrants (s : Scheduler σ) : Operation σ → List (Task σ)
  | .schedule service command sequence =>
    [{ id := ⟨s.lastId + 1⟩, service, command, sequence, createdAt := s.now }]
  | _ => []

/-- The numbers of queued tasks increase, and none of them is still to be given out. -/
structure Numbered (s : Scheduler σ) : Prop where
  increasing : s.queue.Pairwise fun t u => t.id.number < u.id.number
  bounded : ∀ t ∈ s.queue, t.id.number ≤ s.lastId

theorem Numbered.distinct {s : Scheduler σ} (h : s.Numbered) :
    s.queue.Pairwise fun t u => t.id ≠ u.id := by
  refine h.increasing.imp fun {t u} hlt heq => ?_
  rw [heq] at hlt
  exact Nat.lt_irrefl _ hlt

theorem numbered_empty : ({} : Scheduler σ).Numbered := ⟨.nil, by simp⟩

theorem task?_eq_some_iff {s : Scheduler σ} (h : s.Numbered) {id : TaskId} {t : Task σ} :
    s.task? id = some t ↔ t ∈ s.queue ∧ t.id = id := Lists.find?_eq_some_iff Task.id h.distinct

theorem isSome_task?_iff {s : Scheduler σ} {id : TaskId} :
    (s.task? id).isSome = true ↔ ∃ t ∈ s.queue, t.id = id := by
  simp [task?]

theorem task?_of_lt {s : Scheduler σ} (h : s.Numbered) {id : TaskId} (hid : s.lastId < id.number) :
    s.task? id = none := by
  rw [task?, List.find?_eq_none]
  intro t ht heq
  have hle := h.bounded t ht
  rw [decide_eq_true_eq] at heq
  rw [heq] at hle
  omega

variable [OutputSequence σ]

/-- A scheduler after an operation, and what happened. -/
def perform (s : Scheduler σ) : Operation σ → Scheduler σ × Trace
  | .schedule service command sequence => (s.schedule service command sequence).2
  | .tick connected context => s.tick connected context
  | .cancel service => s.cancelFor service
  | .elapse milliseconds => (s.elapse milliseconds, [])

/-- A scheduler after several operations, and what happened. -/
def run (s : Scheduler σ) : List (Operation σ) → Scheduler σ × Trace
  | [] => (s, [])
  | operation :: later =>
    let (next, trace) := s.perform operation
    let (last, more) := next.run later
    (last, trace ++ more)

theorem run_append (s : Scheduler σ) (early late : List (Operation σ)) :
    s.run (early ++ late) =
      (((s.run early).1.run late).1, (s.run early).2 ++ ((s.run early).1.run late).2) := by
  induction early generalizing s with
  | nil => rfl
  | cons operation later ih => simp only [List.cons_append, run, ih, List.append_assoc]

/-! ## One operation -/

theorem perform_queue (s : Scheduler σ) (operation : Operation σ) :
    (s.perform operation).1.queue =
      s.queue.filterMap (fun t => (t.undergo s.now operation).1) ++ s.entrants operation := by
  cases operation with
  | schedule service command sequence => simp [perform, schedule, Task.undergo, entrants]
  | tick connected context =>
    simp only [perform, tick_eq, Task.undergo, entrants, List.append_nil]
  | cancel service =>
    simp only [perform, cancelFor, Task.undergo, entrants, List.append_nil]
    rw [← List.filterMap_eq_filter]
    congr 1
    funext t
    by_cases h : t.service = service <;> simp [h, Option.guard]
  | elapse milliseconds => simp [perform, elapse, Task.undergo, entrants]

theorem perform_lastId (s : Scheduler σ) (operation : Operation σ) :
    (s.perform operation).1.lastId = s.lastId + (s.entrants operation).length := by
  cases operation with
  | tick connected context => simp only [perform, tick_eq, entrants, List.length_nil, Nat.add_zero]
  | _ => rfl

theorem perform_now (s : Scheduler σ) (operation : Operation σ) :
    (s.perform operation).1.now = operation.clock s.now := by
  cases operation with
  | tick connected context => simp only [perform, tick_eq, Operation.clock]
  | _ => rfl

theorem filterMap_perform {α : Type} (s : Scheduler σ) (operation : Operation σ) {f : Event → Option α}
    (hf : ∀ record, f (.note record) = none) :
    (s.perform operation).2.filterMap f =
      s.queue.flatMap fun t => (t.undergo s.now operation).2.filterMap f := by
  cases operation with
  | schedule service command sequence => simp [perform, schedule, Task.undergo, Task.note, hf]
  | tick connected context => simp only [perform, tick_eq, Task.undergo, List.filterMap_flatMap]
  | cancel service =>
    have hnote : List.filterMap f (if (s.queue.filter (·.service = service)).isEmpty then []
        else [Task.note .debug "tasks cancelled" [Log.shown "service" service.render,
          Log.number "cancelled" (s.queue.filter (·.service = service)).length]]) = [] := by
      split <;> simp [Task.note, hf]
    simp only [perform, cancelFor, Task.undergo, List.filterMap_append, hnote, List.append_nil]
    induction s.queue with
    | nil => rfl
    | cons t rest ih =>
      rw [List.flatMap_cons, ← ih]
      by_cases h : t.service = service <;> simp [h, List.filterMap_cons]
      split <;> rfl
  | elapse milliseconds => simp [perform, Task.undergo]

theorem about_perform (s : Scheduler σ) (operation : Operation σ) (id : TaskId) :
    (s.perform operation).2.about id =
      s.queue.flatMap fun t => (t.undergo s.now operation).2.about id := by
  simp only [Trace.about, ← List.filterMap_eq_filter]
  exact s.filterMap_perform operation fun record => rfl

theorem number_of_mem_entrants {s : Scheduler σ} {operation : Operation σ} {t : Task σ}
    (ht : t ∈ s.entrants operation) :
    t.id.number = s.lastId + 1 ∧ (s.perform operation).1.lastId = s.lastId + 1 := by
  cases operation with
  | schedule service command sequence =>
    obtain rfl := List.mem_singleton.mp ht
    exact ⟨rfl, rfl⟩
  | tick connected context => cases ht
  | cancel service => cases ht
  | elapse milliseconds => cases ht

theorem perform_numbered {s : Scheduler σ} (h : s.Numbered) (operation : Operation σ) :
    (s.perform operation).1.Numbered := by
  have hkept : ∀ u ∈ s.queue.filterMap (fun t => (t.undergo s.now operation).1),
      ∃ t ∈ s.queue, u.id = t.id := by
    intro u hu
    obtain ⟨t, ht, hleft⟩ := List.mem_filterMap.mp hu
    exact ⟨t, ht, (Task.undergo_keeps hleft).1⟩
  have hlast : s.lastId ≤ (s.perform operation).1.lastId := by
    rw [perform_lastId]
    omega
  constructor
  · rw [perform_queue, List.pairwise_append]
    refine ⟨?_, ?_, ?_⟩
    · refine List.Pairwise.filterMap _ (fun t u hlt t' ht u' hu => ?_) h.increasing
      rw [(Task.undergo_keeps ht).1, (Task.undergo_keeps hu).1]
      exact hlt
    · cases operation <;> simp [entrants]
    · intro t ht u hu
      obtain ⟨t', ht', heq⟩ := hkept t ht
      have hold := h.bounded t' ht'
      have hnew := (number_of_mem_entrants hu).1
      rw [heq]
      omega
  · intro t ht
    rw [perform_queue, List.mem_append] at ht
    rcases ht with ht | ht
    · obtain ⟨t', ht', heq⟩ := hkept t ht
      rw [heq]
      exact Nat.le_trans (h.bounded t' ht') hlast
    · obtain ⟨hnumber, hcount⟩ := number_of_mem_entrants ht
      omega

theorem perform_task? {s : Scheduler σ} (h : s.Numbered) (operation : Operation σ) {id : TaskId}
    (hid : id.number ≤ s.lastId) :
    (s.perform operation).1.task? id =
      (s.task? id).bind fun t => (t.undergo s.now operation).1 := by
  have hnew : (s.entrants operation).find? (fun t => t.id = id) = none := by
    rw [List.find?_eq_none]
    intro t ht heq
    have hnumber := (number_of_mem_entrants ht).1
    obtain rfl := of_decide_eq_true heq
    omega
  rw [task?, perform_queue, List.find?_append, hnew, Option.or_none]
  exact Lists.find?_filterMap Task.id h.distinct fun t u hu => (Task.undergo_keeps hu).1

theorem about_perform_task? {s : Scheduler σ} (h : s.Numbered) (operation : Operation σ) (id : TaskId) :
    (s.perform operation).2.about id =
      ((s.task? id).map fun t => (t.undergo s.now operation).2.about t.id).getD [] := by
  rw [about_perform, Lists.flatMap_of_single Task.id h.distinct fun t _ hne =>
    Trace.about_of_concerns (t.undergo_concerns s.now operation) hne]
  cases hf : s.task? id with
  | none => rw [← task?, hf]; rfl
  | some t =>
    obtain rfl := ((task?_eq_some_iff h).mp hf).2
    rw [← task?, hf]
    rfl

/-! ## Runs -/

theorem run_numbered {s : Scheduler σ} (h : s.Numbered) (operations : List (Operation σ)) :
    (s.run operations).1.Numbered := by
  induction operations generalizing s with
  | nil => exact h
  | cons operation later ih => exact ih (perform_numbered h operation)

theorem lastId_le_run (s : Scheduler σ) (operations : List (Operation σ)) :
    s.lastId ≤ (s.run operations).1.lastId := by
  induction operations generalizing s with
  | nil => exact Nat.le_refl _
  | cons operation later ih =>
    have hlast := perform_lastId s operation
    have := ih (s.perform operation).1
    simp only [run]
    omega

/-- A run does to a queued task what it does to the task alone, and shows the same of it. -/
theorem run_task? {s : Scheduler σ} (h : s.Numbered) (operations : List (Operation σ)) {id : TaskId}
    (hid : id.number ≤ s.lastId) :
    (s.run operations).1.task? id = (s.task? id).bind (fun t => (t.live s.now operations).1) ∧
      (s.run operations).2.about id =
        ((s.task? id).map fun t => (t.live s.now operations).2.about id).getD [] := by
  induction operations generalizing s with
  | nil =>
    simp only [run, Task.live, Trace.about_nil]
    cases s.task? id <;> simp
  | cons operation later ih =>
    have hlast := perform_lastId s operation
    -- A task that is gone stays gone, since its number is not given out again.
    obtain ⟨ihleft, ihseen⟩ := ih (perform_numbered h operation) (by omega)
    simp only [run, Trace.about_append]
    rw [ihleft, ihseen, perform_task? h operation hid, about_perform_task? h, perform_now]
    cases hf : s.task? id with
    | none => exact ⟨rfl, rfl⟩
    | some t =>
      obtain rfl := ((task?_eq_some_iff h).mp hf).2
      simp only [Option.bind_some, Option.map_some, Option.getD_some, Task.live]
      rcases hu : t.undergo s.now operation with ⟨left, trace⟩
      cases left with
      | none => exact ⟨rfl, List.append_nil _⟩
      | some next => exact ⟨rfl, (Trace.about_append _ _ _).symm⟩

theorem about_run_of_lt {s : Scheduler σ} (h : s.Numbered) (operations : List (Operation σ))
    {id : TaskId} (hid : (s.run operations).1.lastId < id.number) :
    (s.run operations).2.about id = [] := by
  induction operations generalizing s with
  | nil => rfl
  | cons operation later ih =>
    have hlast := perform_lastId s operation
    have hle := lastId_le_run (s.perform operation).1 later
    simp only [run] at hid ⊢
    rw [Trace.about_append, ih (perform_numbered h operation) hid, about_perform_task? h,
      task?_of_lt h (by omega)]
    rfl

/-! ## Scheduled tasks -/

/-- The number that an operation gives out, with the client of the task. -/
def given (s : Scheduler σ) : Operation σ → List (TaskId × Service)
  | .schedule service command sequence => [((s.schedule service command sequence).1, service)]
  | _ => []

/-- The numbers that a run gives out, with the clients of the tasks. -/
def issued (s : Scheduler σ) : List (Operation σ) → List (TaskId × Service)
  | [] => []
  | operation :: later => s.given operation ++ (s.perform operation).1.issued later

theorem issued_append (s : Scheduler σ) (early late : List (Operation σ)) :
    s.issued (early ++ late) = s.issued early ++ (s.run early).1.issued late := by
  induction early generalizing s with
  | nil => rfl
  | cons operation later ih =>
    rw [List.cons_append, issued, issued, ih, List.append_assoc]
    rfl

theorem mem_issued {s : Scheduler σ} {operations : List (Operation σ)} {id : TaskId}
    {service : Service} :
    (id, service) ∈ s.issued operations ↔ ∃ before command sequence later,
      operations = before ++ .schedule service command sequence :: later ∧
        id = ((s.run before).1.schedule service command sequence).1 := by
  induction operations generalizing s with
  | nil => simp [issued]
  | cons operation rest ih =>
    rw [issued, List.mem_append, ih]
    constructor
    · rintro (hmem | ⟨before, command, sequence, later, rfl, hid⟩)
      · cases operation with
        | schedule service' command sequence =>
          obtain ⟨rfl, rfl⟩ := Prod.mk.inj (List.mem_singleton.mp hmem)
          exact ⟨[], command, sequence, rest, rfl, rfl⟩
        | tick connected context => cases hmem
        | cancel service => cases hmem
        | elapse milliseconds => cases hmem
      · exact ⟨operation :: before, command, sequence, later, rfl, hid⟩
    · rintro ⟨before, command, sequence, later, heq, hid⟩
      cases before with
      | nil =>
        obtain ⟨rfl, rfl⟩ := List.cons.inj heq
        exact Or.inl (List.mem_singleton.mpr (congrArg (·, service) hid))
      | cons first before =>
        obtain ⟨rfl, rfl⟩ := List.cons.inj heq
        exact Or.inr ⟨before, command, sequence, later, rfl, hid⟩

theorem exists_issued {s : Scheduler σ} {operations : List (Operation σ)} {id : TaskId}
    (hlow : s.lastId < id.number) (hhigh : id.number ≤ (s.run operations).1.lastId) :
    ∃ service, (id, service) ∈ s.issued operations := by
  induction operations generalizing s with
  | nil => exact absurd hhigh (Nat.not_le.mpr hlow)
  | cons operation later ih =>
    by_cases hle : id.number ≤ (s.perform operation).1.lastId
    · rw [perform_lastId] at hle
      cases operation with
      | schedule service command sequence =>
        obtain ⟨number⟩ := id
        obtain rfl : number = s.lastId + 1 := Nat.le_antisymm hle hlow
        exact ⟨service, List.mem_append_left _ (List.mem_singleton_self _)⟩
      | tick connected context => exact absurd hle (Nat.not_le.mpr hlow)
      | cancel service => exact absurd hle (Nat.not_le.mpr hlow)
      | elapse milliseconds => exact absurd hle (Nat.not_le.mpr hlow)
    · obtain ⟨service, hmem⟩ := ih (Nat.not_le.mp hle) hhigh
      exact ⟨service, List.mem_append_right _ hmem⟩

theorem run_scheduled (before later : List (Operation σ)) (service : Service) (command : String)
    (sequence : σ) :
    let s := (({} : Scheduler σ).run before).1
    let id := (s.schedule service command sequence).1
    let t : Task σ := { id, service, command, sequence, createdAt := s.now }
    let (last, trace) := ({} : Scheduler σ).run (before ++ .schedule service command sequence :: later)
    last.task? id = (t.live s.now later).1 ∧ trace.about id = (t.live s.now later).2.about id := by
  intro s id t
  have hs : s.Numbered := run_numbered numbered_empty before
  have hfresh : (({} : Scheduler σ).run before).2.about id = [] :=
    about_run_of_lt numbered_empty before (Nat.lt_succ_self _)
  let operation : Operation σ := .schedule service command sequence
  have hqueued : (s.perform operation).1.task? id = some t := by
    rw [task?_eq_some_iff (perform_numbered hs operation), perform_queue]
    exact ⟨List.mem_append_right _ (List.mem_singleton_self _), rfl⟩
  have hnote : (s.perform operation).2.about id = [] := by
    rw [about_perform_task? hs, task?_of_lt hs (show s.lastId < id.number from Nat.lt_succ_self _)]
    rfl
  obtain ⟨hleft, hseen⟩ := run_task? (perform_numbered hs operation) later (Nat.le_refl id.number)
  rw [run_append]
  simp only [run, Trace.about_append]
  rw [hqueued] at hleft hseen
  rw [hfresh, hnote]
  exact ⟨hleft, hseen⟩

end Scheduler

end RouteServer.Schedule
