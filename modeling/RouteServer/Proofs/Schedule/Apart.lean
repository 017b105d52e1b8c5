import Mathlib.Data.List.Induction
import RouteServer.Proofs.Schedule.Endings
import RouteServer.Proofs.Schedule.Rotation

/-! # Clients are served apart

What a client gets does not depend on the other clients. If all that is done for them is left out of a run, the
scheduler mirrors the tasks of the one client that is left, under other numbers: `Mirrors` holds between the two
schedulers after each operation, and from it both show the same to this client.
-/

namespace RouteServer

open Schedule

variable {σ : Type}

/-- The line for a client that an event may be. -/
def Event.outputFor? (service : Service) : Event → Option Output
  | .wrote s _ output => if s = service then some output else none
  | _ => none

/-- The transition of a task of a client that an event may be. -/
def Event.transitionOf? (service : Service) : Event → Option Transition
  | .transition x => if x.service = service then some x else none
  | _ => none

namespace Trace

theorem writtenTo_eq_filterMap (t : Trace) (service : Service) :
    t.writtenTo service = t.filterMap (Event.outputFor? service) := rfl

/-- The transitions of the tasks of a client. -/
def transitionsOf (t : Trace) (service : Service) : List Transition :=
  t.transitions.filter (·.service = service)

theorem transitionsOf_eq (t : Trace) (service : Service) :
    t.transitionsOf service = t.filterMap (Event.transitionOf? service) := by
  rw [transitionsOf, transitions, List.filter_filterMap]
  congr 1
  funext e
  cases e <;> simp [Event.transitionOf?, Option.filter]

end Trace

namespace Schedule

/-! ## One client alone -/

/-- The number of a task if only the tasks in a list had been scheduled. -/
def place (ids : List TaskId) (id : TaskId) : TaskId := ⟨ids.idxOf id + 1⟩

theorem place_append {ids : List TaskId} {id : TaskId} (h : id ∈ ids) (more : List TaskId) :
    place (ids ++ more) id = place ids id := by
  rw [place, List.idxOf_append_of_mem h, place]

theorem place_new {ids : List TaskId} {id : TaskId} (h : id ∉ ids) :
    place (ids ++ [id]) id = ⟨ids.length + 1⟩ := by
  simp [place, List.idxOf_append_of_notMem h]

def Transition.renumber (number : TaskId → TaskId) (x : Transition) : Transition :=
  { x with task := number x.task }

def Task.renumber (number : TaskId → TaskId) (t : Task σ) : Task σ := { t with id := number t.id }

/-- What is left of an operation without the other clients: it is dropped if it is about the tasks of one of
them, and none of them is connected. -/
def Operation.restrict (service : Service) : Operation σ → Option (Operation σ)
  | schedule other command sequence =>
    if other = service then some (schedule other command sequence) else none
  | tick connected context => some (tick (fun other => other = service && connected other) context)
  | cancel other => if other = service then some (cancel other) else none
  | elapse milliseconds => some (elapse milliseconds)

theorem Operation.clock_restrict (service : Service) (operation : Operation σ) (now : Nat) :
    ((operation.restrict service).map fun operation' => operation'.clock now).getD now =
      operation.clock now := by
  cases operation with
  | schedule other command sequence =>
    rw [restrict]
    split <;> rfl
  | cancel other =>
    rw [restrict]
    split <;> rfl
  | _ => rfl

variable [OutputSequence σ]

/-! ## One task -/

/-- The same has been done to a task under two numbers. -/
structure Renumbered (number : TaskId → TaskId) (r r' : Option (Task σ) × Trace) : Prop where
  left : r'.1 = r.1.map (Task.renumber number)
  written : r'.2.written = r.2.written
  transitions : r'.2.transitions = r.2.transitions.map (Transition.renumber number)

namespace Task

variable (number : TaskId → TaskId) {t : Task σ} {service : Service}

theorem advance_renumber (connected connected' : Service → Bool)
    (h : connected' t.service = connected t.service) (context : StepContext) (now : Nat) :
    Renumbered number (t.advance connected context now)
      ((t.renumber number).advance connected' context now) := by
  unfold advance
  simp only [renumber, h]
  cases connected t.service with
  | false => constructor <;> rfl
  | true =>
    by_cases hstate : t.state = .pending <;>
      rcases OutputSequence.step context t.sequence with ⟨cause | (text | _ | _), next⟩ <;>
        constructor <;> simp only [hstate] <;> rfl

theorem undergo_renumber {operation operation' : Operation σ} (now : Nat)
    (h : operation.restrict t.service = some operation') :
    Renumbered number (t.undergo now operation) ((t.renumber number).undergo now operation') := by
  cases operation with
  | schedule other command sequence =>
    obtain ⟨-, heq⟩ := Option.ite_none_right_eq_some.mp h
    obtain rfl := Option.some.inj heq
    constructor <;> rfl
  | tick connected context =>
    obtain rfl := Option.some.inj h
    exact advance_renumber number connected (fun other => other = t.service && connected other) (by simp)
      context now
  | cancel other =>
    obtain ⟨rfl, heq⟩ := Option.ite_none_right_eq_some.mp h
    obtain rfl := Option.some.inj heq
    constructor <;> simp [undergo, renumber, Trace.written, Trace.transitions, enter, Transition.renumber]
  | elapse milliseconds =>
    obtain rfl := Option.some.inj h
    constructor <;> rfl

theorem undergo_of_restrict_none {operation : Operation σ} (now : Nat)
    (h : operation.restrict t.service = none) : t.undergo now operation = (some t, []) := by
  cases operation with
  | schedule other command sequence => rfl
  | tick connected context => cases h
  | cancel other =>
    rw [undergo, if_neg]
    rintro rfl
    rw [Operation.restrict, if_pos rfl] at h
    cases h
  | elapse milliseconds => cases h

end Task

/-! ## The queue -/

namespace Scheduler

variable {service : Service} {ids : List TaskId} {s a : Scheduler σ}

/-- A scheduler `a` has the tasks of one client that a scheduler `s` has, and no others. `ids` are the numbers
that `s` has given out to this client. -/
structure Mirrors (service : Service) (ids : List TaskId) (s a : Scheduler σ) : Prop where
  queue : a.queue = (s.queue.filter fun t => t.service = service).map (Task.renumber (place ids))
  lastId : a.lastId = ids.length
  now : a.now = s.now
  given : ∀ t ∈ s.queue, t.service = service → t.id ∈ ids
  bounded : ∀ id ∈ ids, id.number ≤ s.lastId

theorem issuedTo_append (s : Scheduler σ) (service : Service) (early late : List (Operation σ)) :
    s.issuedTo service (early ++ late) =
      s.issuedTo service early ++ (s.run early).1.issuedTo service late := by
  simp [issuedTo, issued_append]

theorem issuedTo_single (s : Scheduler σ) (service : Service) (operation : Operation σ) :
    s.issuedTo service [operation] =
      ((s.entrants operation).filter fun t => t.service = service).map (·.id) := by
  cases operation with
  | schedule other command sequence =>
    by_cases h : other = service <;> simp [issuedTo, issued, given, schedule, entrants, h]
  | _ => rfl

theorem Mirrors.entrants (h : Mirrors service ids s a) (operation : Operation σ) :
    ((s.entrants operation).filter fun t => t.service = service).map
        (Task.renumber (place (ids ++ s.issuedTo service [operation]))) =
      ((operation.restrict service).map a.entrants).getD [] := by
  have hnew : (⟨s.lastId + 1⟩ : TaskId) ∉ ids := fun hmem =>
    absurd (h.bounded _ hmem) (Nat.not_le.mpr (Nat.lt_succ_self _))
  rw [issuedTo_single]
  cases operation with
  | schedule other command sequence =>
    by_cases hother : other = service
    · simp [Scheduler.entrants, Operation.restrict, hother, Task.renumber, place_new hnew, h.lastId, h.now]
    · simp [Scheduler.entrants, Operation.restrict, hother]
  | cancel other =>
    simp only [Scheduler.entrants, Operation.restrict]
    split <;> rfl
  | _ => rfl

theorem Mirrors.kept (h : Mirrors service ids s a) (operation : Operation σ) :
    ((s.queue.filterMap fun t => (t.undergo s.now operation).1).filter fun t => t.service = service).map
        (Task.renumber (place ids)) =
      ((operation.restrict service).map fun operation' =>
        a.queue.filterMap fun t => (t.undergo a.now operation').1).getD a.queue := by
  have hown : ((s.queue.filterMap fun t => (t.undergo s.now operation).1).filter
      fun t => t.service = service) =
        (s.queue.filter fun t => t.service = service).filterMap fun t => (t.undergo s.now operation).1 := by
    rw [List.filter_filterMap, List.filterMap_filter]
    refine List.filterMap_congr fun t _ => ?_
    cases hleft : (t.undergo s.now operation).1 with
    | none => exact (ite_self none).symm
    | some next => simp [Option.filter, (Task.undergo_keeps hleft).2]
  rw [hown, List.map_filterMap, h.queue, h.now]
  cases hrestrict : operation.restrict service with
  | none =>
    rw [Option.map_none, Option.getD_none, ← List.filterMap_eq_map]
    refine List.filterMap_congr fun t ht => ?_
    obtain rfl := of_decide_eq_true (List.mem_filter.mp ht).2
    rw [Task.undergo_of_restrict_none s.now hrestrict]
    rfl
  | some operation' =>
    rw [Option.map_some, Option.getD_some, List.filterMap_map]
    refine List.filterMap_congr fun t ht => ?_
    obtain rfl := of_decide_eq_true (List.mem_filter.mp ht).2
    exact (Task.undergo_renumber (place ids) s.now hrestrict).left.symm

theorem Mirrors.given_of_kept (h : Mirrors service ids s a) {operation : Operation σ} {t : Task σ}
    (ht : t ∈ s.queue.filterMap fun t => (t.undergo s.now operation).1) (hservice : t.service = service) :
    t.id ∈ ids := by
  obtain ⟨u, hu, hleft⟩ := List.mem_filterMap.mp ht
  obtain ⟨hid, howner⟩ := Task.undergo_keeps hleft
  exact hid ▸ h.given u hu (howner ▸ hservice)

theorem Mirrors.queue_perform (h : Mirrors service ids s a) (operation : Operation σ) :
    ((s.perform operation).1.queue.filter fun t => t.service = service).map
        (Task.renumber (place (ids ++ s.issuedTo service [operation]))) =
      ((operation.restrict service).map fun operation' =>
        a.queue.filterMap fun t => (t.undergo a.now operation').1).getD a.queue ++
          ((operation.restrict service).map a.entrants).getD [] := by
  rw [perform_queue, List.filter_append, List.map_append, h.entrants, ← h.kept]
  congr 1
  refine List.map_congr_left fun t ht => ?_
  obtain ⟨ht, hservice⟩ := List.mem_filter.mp ht
  -- The place of a task that stays does not change.
  have hgiven := h.given_of_kept ht (of_decide_eq_true hservice)
  rw [Task.renumber, place_append hgiven, Task.renumber]

theorem Mirrors.perform (h : Mirrors service ids s a) (operation : Operation σ) :
    Mirrors service (ids ++ s.issuedTo service [operation]) (s.perform operation).1
      (a.run (operation.restrict service).toList).1 := by
  have hlast := perform_lastId s operation
  have hentrants := congrArg List.length (h.entrants operation)
  rw [List.length_map] at hentrants
  have hclock := operation.clock_restrict service s.now
  constructor
  · rw [h.queue_perform]
    cases operation.restrict service with
    | none => exact (List.append_nil _).symm
    | some operation' => exact perform_queue a operation'
  · rw [List.length_append, issuedTo_single, List.length_map, hentrants, ← h.lastId]
    cases operation.restrict service with
    | none => rfl
    | some operation' => exact perform_lastId a operation'
  · rw [perform_now, ← hclock, ← h.now]
    cases operation.restrict service with
    | none => rfl
    | some operation' => exact perform_now a operation'
  · intro t ht hservice
    rw [perform_queue, List.mem_append] at ht
    rw [List.mem_append, issuedTo_single]
    rcases ht with ht | ht
    · exact .inl (h.given_of_kept ht hservice)
    · exact .inr (List.mem_map.mpr ⟨t, List.mem_filter.mpr ⟨ht, decide_eq_true hservice⟩, rfl⟩)
  · intro id hid
    rw [List.mem_append, issuedTo_single, List.mem_map] at hid
    rcases hid with hid | ⟨t, ht, rfl⟩
    · exact Nat.le_trans (h.bounded id hid) (hlast ▸ Nat.le_add_right ..)
    · obtain ⟨hnumber, hlastId⟩ := number_of_mem_entrants (List.mem_filter.mp ht).1
      exact Nat.le_of_eq (hnumber.trans hlastId.symm)

theorem mirrors_run (early : List (Operation σ)) (service : Service) :
    Mirrors service (({} : Scheduler σ).issuedTo service early) (({} : Scheduler σ).run early).1
      (({} : Scheduler σ).run (early.filterMap (Operation.restrict service))).1 := by
  induction early using List.reverseRecOn with
  | nil =>
    constructor
    · rfl
    · rfl
    · rfl
    · rintro t (_ | _)
    · rintro id (_ | _)
  | append_singleton early operation ih =>
    rw [issuedTo_append, run_append, List.filterMap_append, run_append,
      List.filterMap_eq_flatMap_toList _ [operation], List.flatMap_singleton]
    exact ih.perform operation

/-! ## What a client sees -/

theorem filterMap_perform_of_own {α : Type} (s : Scheduler σ) (operation : Operation σ)
    {f : Event → Option α} (hf : ∀ record, f (.note record) = none)
    (hother : ∀ (e : Event) (other : Service) (id : TaskId), e.Concerns other id → other ≠ service →
      f e = none) :
    (s.perform operation).2.filterMap f =
      (s.queue.filter fun t => t.service = service).flatMap fun t =>
        (t.undergo s.now operation).2.filterMap f := by
  rw [filterMap_perform s operation hf]
  induction s.queue with
  | nil => rfl
  | cons t rest ih =>
    rw [List.flatMap_cons, ih]
    by_cases h : t.service = service
    · rw [List.filter_cons_of_pos (by simpa using h), List.flatMap_cons]
    · have hnone : (t.undergo s.now operation).2.filterMap f = [] :=
        List.filterMap_eq_nil_iff.mpr fun e he => hother e _ _ (t.undergo_concerns s.now operation e he) h
      rw [List.filter_cons_of_neg (by simpa using h), hnone, List.nil_append]

/-- What is read off for the client is the same with the client alone, if it is the same for each of its tasks
under the two numbers. -/
theorem Mirrors.seen {α : Type} (h : Mirrors service ids s a) (operation : Operation σ)
    {f : Event → Option α} {g : α → α} (hf : ∀ record, f (.note record) = none)
    (hother : ∀ (e : Event) (other : Service) (id : TaskId), e.Concerns other id → other ≠ service →
      f e = none)
    (hg : ∀ r r' : Option (Task σ) × Trace, Renumbered (place ids) r r' →
      r'.2.filterMap f = (r.2.filterMap f).map g) :
    (a.run (operation.restrict service).toList).2.filterMap f =
      ((s.perform operation).2.filterMap f).map g := by
  rw [filterMap_perform_of_own s operation hf hother, List.map_flatMap]
  cases hrestrict : operation.restrict service with
  | none =>
    symm
    rw [Option.toList_none, run, List.filterMap_nil, List.flatMap_eq_nil_iff]
    intro t ht
    obtain rfl := of_decide_eq_true (List.mem_filter.mp ht).2
    rw [Task.undergo_of_restrict_none s.now hrestrict]
    rfl
  | some operation' =>
    simp only [Option.toList_some, run, List.append_nil]
    rw [filterMap_perform a operation' hf, h.queue, h.now, List.flatMap_map]
    refine List.flatMap_congr fun t ht => ?_
    obtain rfl := of_decide_eq_true (List.mem_filter.mp ht).2
    exact hg _ _ (Task.undergo_renumber (place ids) s.now hrestrict)

theorem Mirrors.written (h : Mirrors service ids s a) (operation : Operation σ) :
    (a.run (operation.restrict service).toList).2.writtenTo service =
      (s.perform operation).2.writtenTo service := by
  simp only [Trace.writtenTo_eq_filterMap]
  rw [← List.map_id ((s.perform operation).2.filterMap _)]
  refine h.seen operation (fun record => rfl) ?_ ?_
  · intro e other id he hne
    cases e with
    | wrote recipient task output => exact if_neg (he.1 ▸ hne)
    | _ => rfl
  · intro r r' hr
    rw [List.map_id, ← Trace.writtenTo_eq_filterMap, ← Trace.writtenTo_eq_filterMap, Trace.writtenTo_eq,
      Trace.writtenTo_eq, hr.written]

theorem Mirrors.transitions (h : Mirrors service ids s a) (operation : Operation σ) :
    (a.run (operation.restrict service).toList).2.transitionsOf service =
      ((s.perform operation).2.transitionsOf service).map (Transition.renumber (place ids)) := by
  simp only [Trace.transitionsOf_eq]
  refine h.seen operation (fun record => rfl) ?_ ?_
  · intro e other id he hne
    cases e with
    | transition x => exact if_neg (he.1 ▸ hne)
    | _ => rfl
  · intro r r' hr
    rw [← Trace.transitionsOf_eq, ← Trace.transitionsOf_eq, Trace.transitionsOf, hr.transitions,
      List.filter_map]
    rfl

end Scheduler

/-! ## Every client for itself -/

/-- How a run treats clients and their tasks. -/
structure Fair (early : List (Operation σ)) (s : Scheduler σ) : Prop where
  /-- Each operation writes the same to a client, and its tasks enter the same states, if all operations for
  other clients have been left out, and none of these clients is connected. -/
  alone : ∀ (service : Service) (operation : Operation σ),
    let apart := (({} : Scheduler σ).run (early.filterMap (Operation.restrict service))).1
    let seen := (s.perform operation).2
    let seenApart := (apart.run (operation.restrict service).toList).2
    seenApart.writtenTo service = seen.writtenTo service ∧
      seenApart.transitionsOf service =
        (seen.transitionsOf service).map
          (Transition.renumber (place (({} : Scheduler σ).issuedTo service early)))
  /-- No task is queued twice. -/
  distinct : (s.queue.map (·.id)).Nodup
  /-- A tick steps the tasks of connected clients, once each and in the order of the queue. -/
  turns : ∀ connected context, (s.tick connected context).2.stepped =
    (s.queue.filter fun t => connected t.service).map fun t =>
      (t.id, (OutputSequence.step context t.sequence).1)
  /-- The tasks that are not over after it stay in the same order. -/
  order : ∀ connected context, (s.tick connected context).1.queue =
    (s.queue.filter fun t => ¬ Over (s.tick connected context).2 t.id).map (Task.continued context)
  /-- A task that is still queued has been stepped once in each tick since it was scheduled. -/
  pace : ∀ before service command sequence since,
    early = before ++ .schedule service command sequence :: since →
      let id := ((({} : Scheduler σ).run before).1.schedule service command sequence).1
      (∃ t ∈ s.queue, t.id = id) →
        ((({} : Scheduler σ).run early).2.about id).steps.length =
          (since.filterMap Operation.context?).length

/-- Whatever has been done, no client is served otherwise because of the others, and all take turns. -/
theorem clients_served_apart (early : List (Operation σ)) :
    Fair early (({} : Scheduler σ).run early).1 := by
  have hnumbered := Scheduler.run_numbered Scheduler.numbered_empty early
  constructor
  · intro service operation
    have hmirrors := Scheduler.mirrors_run early service
    exact ⟨hmirrors.written operation, hmirrors.transitions operation⟩
  · exact List.pairwise_map.mpr hnumbered.distinct
  · intro connected context
    exact Scheduler.tick_stepped
  · intro connected context
    exact Scheduler.tick_queue hnumbered
  · rintro before service command sequence since rfl
    exact Scheduler.length_steps before since service command sequence

end Schedule

end RouteServer
