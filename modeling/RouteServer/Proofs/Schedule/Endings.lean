import Mathlib.Data.List.Nodup
import RouteServer.Proofs.Schedule.Lifecycle

/-! # Tasks that come to their own end

A task that completes or fails gives its client one marker, and no task does so twice. So a client gets as
many markers from the scheduler as of its tasks have come to their own end.
-/

namespace RouteServer

open Schedule

variable {σ : Type}

/-! ## Markers -/

def Output.isMarker : Output → Bool
  | line _ => false
  | marker _ => true

/-- Whether a task is over because its output is, so that its client has got a marker. -/
def Schedule.TaskState.isAnswered : TaskState → Bool
  | completed | failed => true
  | pending | running | cancelled => false

/-- Whether an output is a marker for a client. -/
def marks (service : Service) (w : Service × Output) : Bool := w.1 = service && w.2.isMarker

/-- Whether a task of a client comes to its own end. -/
def settles (service : Service) (x : Transition) : Bool := x.service = service && x.state.isAnswered

/-! ## What the scheduler writes -/

/-- A client gets as many markers as tasks of its come to their own end. -/
def Trace.Balanced (t : Trace) (service : Service) : Prop :=
  t.written.countP (marks service) = t.transitions.countP (settles service)

namespace Trace.Balanced

variable {t u : Trace} {service : Service}

theorem append (ht : t.Balanced service) (hu : u.Balanced service) : Balanced (t ++ u) service := by
  rw [Balanced, written_append, transitions_append, List.countP_append, List.countP_append, ht, hu]

theorem flatMap {α : Type} {l : List α} {f : α → Trace} (h : ∀ a ∈ l, (f a).Balanced service) :
    Balanced (l.flatMap f) service := by
  induction l with
  | nil => rfl
  | cons a rest ih =>
    exact (h a List.mem_cons_self).append (ih fun b hb => h b (List.mem_cons_of_mem _ hb))

theorem close (recipient service : Service) (id : TaskId) (answer : Answer) {state : TaskState}
    (h : state.isAnswered = true) (record : Log.Record) :
    Balanced [.wrote recipient id (.marker answer), .transition ⟨id, recipient, state⟩, .note record]
      service := by
  simp [Balanced, written, transitions, marks, settles, Output.isMarker, h]

theorem transition (owner service : Service) (id : TaskId) {state : TaskState}
    (h : state.isAnswered = false) : Balanced [.transition ⟨id, owner, state⟩] service := by
  simp [Balanced, written, transitions, settles, h]

theorem advance {σ : Type} [OutputSequence σ] (connected : Service → Bool) (service : Service)
    (context : StepContext) (now : Nat) (t : Schedule.Task σ) :
    (t.advance connected context now).2.Balanced service := by
  have hstart : ∀ r, Balanced ((if t.state = .pending then [t.enter .running] else []) ++
      [.stepped t.id r]) service := by
    intro r
    refine append ?_ rfl
    split
    · exact transition _ _ _ rfl
    · rfl
  unfold Schedule.Task.advance
  split
  · exact (transition t.service service t.id rfl).append rfl
  · rcases OutputSequence.step context t.sequence with ⟨cause | (text | _ | _), next⟩
    case error => exact (hstart _).append (close _ _ _ _ rfl _)
    case ok.line =>
      refine (hstart _).append ?_
      simp [Balanced, written, transitions, marks, Output.isMarker]
    case ok.idle => exact hstart _
    case ok.exhausted => exact (hstart _).append (close _ _ _ _ rfl _)

theorem tick {σ : Type} [OutputSequence σ] (s : Scheduler σ) (connected : Service → Bool)
    (context : StepContext) (service : Service) : (s.tick connected context).2.Balanced service := by
  rw [Scheduler.tick_eq]
  exact flatMap fun t _ => advance connected service context s.now t

theorem cancelFor {σ : Type} (s : Scheduler σ) (other service : Service) :
    (s.cancelFor other).2.Balanced service := by
  refine append ?_ ?_
  · rw [List.map_eq_flatMap]
    exact flatMap fun t _ => transition t.service service t.id rfl
  · split <;> rfl

end Trace.Balanced

/-! ## Which tasks come to an end -/

theorem Trace.mem_transitions {t : Trace} {x : Transition} : x ∈ t.transitions ↔ .transition x ∈ t := by
  rw [transitions, List.mem_filterMap]
  constructor
  · rintro ⟨e, he, hx⟩
    cases e with
    | transition y =>
      obtain rfl := Option.some.inj hx
      exact he
    | _ => cases hx
  · exact fun h => ⟨_, h, rfl⟩

theorem Trace.states_about (t : Trace) (id : TaskId) :
    (t.about id).states = (t.transitions.filter fun x => x.task = id).map (·.state) := by
  rw [states, transitions, transitions, about, List.filter_filterMap, List.filterMap_filter]
  congr 2
  funext e
  cases e with
  | wrote service task output => exact ite_self none
  | _ => simp [Event.task?, Option.filter]

namespace Schedule.Scheduler

variable [OutputSequence σ]

theorem exists_task_of_transition {s : Scheduler σ} {operation : Operation σ} {x : Transition}
    (hx : x ∈ (s.perform operation).2.transitions) :
    ∃ t ∈ s.queue, t.id = x.task ∧ t.service = x.service := by
  rw [Trace.mem_transitions] at hx
  cases operation with
  | schedule service command sequence => simp [perform, schedule, Task.note] at hx
  | tick connected context =>
    simp only [perform, tick_eq, List.mem_flatMap] at hx
    obtain ⟨t, ht, hx⟩ := hx
    obtain ⟨hservice, hid⟩ := t.advance_concerns connected context s.now _ hx
    exact ⟨t, ht, hid.symm, hservice.symm⟩
  | cancel service =>
    simp only [perform, cancelFor, List.mem_append, List.mem_map, List.mem_filter] at hx
    rcases hx with ⟨t, ⟨ht, -⟩, heq⟩ | hx
    · cases heq
      exact ⟨t, ht, rfl, rfl⟩
    · split at hx <;> simp [Task.note] at hx
  | elapse milliseconds => cases hx

theorem owner_of_transition {s : Scheduler σ} {operations : List (Operation σ)} {x : Transition}
    (hx : x ∈ (s.run operations).2.transitions) :
    (∃ t ∈ s.queue, t.id = x.task ∧ t.service = x.service) ∨
      (x.task, x.service) ∈ s.issued operations := by
  induction operations generalizing s with
  | nil => cases hx
  | cons operation later ih =>
    simp only [run, Trace.transitions_append, List.mem_append] at hx
    rcases hx with hx | hx
    · exact .inl (exists_task_of_transition hx)
    · rcases ih hx with ⟨t, ht, hid, hservice⟩ | hissued
      · rw [perform_queue, List.mem_append] at ht
        rcases ht with ht | ht
        · obtain ⟨t', ht', hleft⟩ := List.mem_filterMap.mp ht
          obtain ⟨hid', hservice'⟩ := Task.undergo_keeps hleft
          exact .inl ⟨t', ht', hid'.symm.trans hid, hservice'.symm.trans hservice⟩
        · cases operation with
          | schedule service command sequence =>
            obtain rfl := List.mem_singleton.mp ht
            refine .inr (List.mem_append_left _ (List.mem_singleton.mpr ?_))
            rw [← hid, ← hservice]
            rfl
          | _ => cases ht
      · exact .inr (List.mem_append_right _ hissued)

theorem ends_once (operations : List (Operation σ)) (id : TaskId) :
    (((({} : Scheduler σ).run operations).2.transitions.filter fun x => x.task = id).map
      (·.state)).countP TaskState.isAnswered ≤ 1 := by
  have hlawful : Lawful ((({} : Scheduler σ).run operations).2.about id).states := by
    by_cases h : ∃ service, (id, service) ∈ ({} : Scheduler σ).issued operations
    · obtain ⟨service, hmem⟩ := h
      exact (issued_spec hmem).1.lawful
    · rw [(unissued_spec (not_exists.mp h)).2]
      exact .inl List.nil_prefix
  rw [Trace.states_about] at hlawful
  have hcount : ∀ {l m : List TaskState}, l <+: m → m.countP TaskState.isAnswered ≤ 1 →
      l.countP TaskState.isAnswered ≤ 1 := fun h hle => Nat.le_trans h.sublist.countP_le hle
  rcases hlawful with h | h | h | h <;> exact hcount h (by decide)

theorem settles_nodup (early later : List (Operation σ)) (service : Service) :
    ((((({} : Scheduler σ).run early).1.run later).2.transitions.filter (settles service)).map
      (·.task)).Nodup := by
  refine List.nodup_iff_count_le_one.mpr fun id => ?_
  -- The transitions of the later part are some of those of the whole run, in which no task ends twice.
  have hwhole := ends_once (early ++ later) id
  rw [run_append, Trace.transitions_append, List.filter_append, List.map_append, List.countP_append,
    List.countP_map, List.countP_map, List.countP_filter, List.countP_filter] at hwhole
  rw [List.count, List.countP_map, List.countP_filter]
  refine Nat.le_trans (List.countP_mono_left fun x _ hx => ?_)
    (Nat.le_trans (Nat.le_add_left _ _) hwhole)
  simp_all [settles]

theorem issued_nodup (s : Scheduler σ) (operations : List (Operation σ)) :
    ((s.issued operations).map (·.1)).Nodup := by
  refine List.Nodup.of_map TaskId.number ?_
  rw [List.map_map]
  exact (s.issued_numbers operations).symm ▸ List.nodup_range'

/-- The numbers that a run gives out to tasks of a client. -/
def issuedTo (s : Scheduler σ) (service : Service) (operations : List (Operation σ)) : List TaskId :=
  ((s.issued operations).filter fun given => given.2 = service).map (·.1)

theorem mem_issuedTo {s : Scheduler σ} {operations : List (Operation σ)} {id : TaskId}
    {service : Service} : id ∈ s.issuedTo service operations ↔ (id, service) ∈ s.issued operations := by
  simp [issuedTo]

theorem owner_of_issued {s : Scheduler σ} (h : s.Numbered) {operations : List (Operation σ)}
    {x : Transition} {service : Service} (hx : x ∈ (s.run operations).2.transitions)
    (hissued : (x.task, service) ∈ s.issued operations) : x.service = service := by
  have hnumber : x.task.number ∈ (s.issued operations).map (·.1.number) :=
    List.mem_map.mpr ⟨_, hissued, rfl⟩
  rw [issued_numbers, List.mem_range'_1] at hnumber
  rcases owner_of_transition hx with ⟨t, ht, hid, -⟩ | hother
  · have := h.bounded t ht
    rw [hid] at this
    omega
  · exact (Prod.mk.inj (List.inj_on_of_nodup_map (s.issued_nodup operations) hother hissued rfl)).2

/-- A client without a task at first: as many of its tasks settle in a run as of those that the run
schedules for it come to their own end. -/
theorem countP_settles (early later : List (Operation σ)) (service : Service) :
    let s := (({} : Scheduler σ).run early).1
    s.isBusy service = false →
      (s.run later).2.transitions.countP (settles service) =
        (s.issuedTo service later).countP fun id =>
          (s.run later).2.transitions.any fun x => x.task = id && x.state.isAnswered := by
  intro s hidle
  have hnumbered : s.Numbered := run_numbered numbered_empty early
  let settling := ((s.run later).2.transitions.filter (settles service)).map (·.task)
  let ended := (s.issuedTo service later).filter fun id =>
    (s.run later).2.transitions.any fun x => x.task = id && x.state.isAnswered
  have honce : settling.Nodup := settles_nodup early later service
  have hended : ended.Nodup :=
    ((s.issued_nodup later).sublist (List.filter_sublist.map _)).filter _
  have hsame : ∀ id, id ∈ settling ↔ id ∈ ended := by
    intro id
    simp only [settling, ended, List.mem_map, List.mem_filter, mem_issuedTo, List.any_eq_true,
      Bool.and_eq_true, decide_eq_true_eq, settles]
    constructor
    · rintro ⟨x, ⟨hx, rfl, hanswered⟩, rfl⟩
      refine ⟨?_, x, hx, rfl, hanswered⟩
      rcases owner_of_transition hx with ⟨t, ht, -, hservice⟩ | hissued
      · have : s.isBusy x.service = true := List.any_eq_true.mpr ⟨t, ht, by simp [hservice]⟩
        rw [hidle] at this
        cases this
      · exact hissued
    · rintro ⟨hissued, x, hx, rfl, hanswered⟩
      exact ⟨x, ⟨hx, owner_of_issued hnumbered hx hissued, hanswered⟩, rfl⟩
  have hlength := ((List.perm_ext_iff_of_nodup honce hended).mpr hsame).length_eq
  rwa [List.length_map, ← List.countP_eq_length_filter, ← List.countP_eq_length_filter] at hlength

end Schedule.Scheduler

end RouteServer
