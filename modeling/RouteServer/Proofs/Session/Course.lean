import Mathlib.Data.List.Induction
import RouteServer.Proofs.Keyed
import RouteServer.Proofs.Lists
import RouteServer.Session.Table

/-! # The course of a session

What a fresh session has become by a list of events can be read off the list: the state of its protocol, how many
messages went either way, and the OPEN of the peer, which is forgotten where the session changes to idle.
-/

namespace RouteServer.Session

/-- A session without the moment of its last change. -/
def State.undated (s : State) : State := { s with changedAt := 0 }

theorem State.undated_apply (s : State) (now : Nat) (event : Event) :
    (s.apply now event).undated = s.undated.apply 0 event := by
  cases event with
  | transition target =>
    by_cases h : s.fsm = target
    · simp [apply, transition, undated, h]
    · simp [apply, transition, undated, h]
  | opened data => rfl
  | sent kind => rfl
  | received kind => rfl

/-- What a fresh session becomes by events, apart from the moment of its last change. -/
def State.course (events : List Event) : State :=
  events.foldl (fun s event => s.apply 0 event) { changedAt := 0 }

theorem State.course_concat (events : List Event) (event : Event) :
    course (events ++ [event]) = (course events).apply 0 event := List.foldl_append ..

variable {events : List Event} {event : Event} {data : OpenData}

/-! ## Protocol state -/

def Event.target? : Event → Option FsmState
  | .transition target => some target
  | _ => none

/-- The target of the last transition. -/
def fsmAfter (events : List Event) : FsmState := (events.filterMap Event.target?).getLastD .idle

theorem fsmAfter_concat (events : List Event) (event : Event) :
    fsmAfter (events ++ [event]) = event.target?.getD (fsmAfter events) := by
  unfold fsmAfter
  cases event <;> simp [Event.target?]

theorem State.fsm_course (events : List Event) : (course events).fsm = fsmAfter events := by
  induction events using List.reverseRecOn with
  | nil => rfl
  | append_singleton events event ih =>
    rw [course_concat, fsmAfter_concat, ← ih]
    cases event with
    | transition target =>
      simp only [apply, transition, Event.target?, Option.getD_some]
      split
      · assumption
      · rfl
    | opened data => rfl
    | sent kind => rfl
    | received kind => rfl

/-! ## Messages -/

instance : Std.LawfulEqOrd MessageKind where
  eq_of_compare {a b} h := by
    have hindex : MessageKind.all.idxOf a = MessageKind.all.idxOf b := Nat.compare_eq_eq.mp h
    cases a <;> cases b <;> first | rfl | exact absurd hindex (by decide)

theorem State.transition_messages (s : State) (now : Nat) (target : FsmState) :
    (s.transition now target).messages = s.messages := by
  unfold transition
  split <;> rfl

theorem State.counter_course (events : List Event) (kind : MessageKind) :
    ((course events).messages.get? kind).getD {} =
      ⟨events.count (.sent kind), events.count (.received kind)⟩ := by
  induction events using List.reverseRecOn with
  | nil => rfl
  | append_singleton events event ih =>
    rw [course_concat, List.count_append, List.count_append]
    cases event with
    | transition target => simpa [apply, transition_messages] using ih
    | opened data => simpa [apply] using ih
    | sent other =>
      by_cases h : kind = other
      · subst h
        simp [apply, count, Keyed.get?_upsert, ih]
      · simpa [apply, count, Keyed.get?_upsert, h, Ne.symm h] using ih
    | received other =>
      by_cases h : kind = other
      · subst h
        simp [apply, count, Keyed.get?_upsert, ih]
      · simpa [apply, count, Keyed.get?_upsert, h, Ne.symm h] using ih

/-! ## The OPEN of the peer -/

/-- An OPEN that came last, since which the session has not changed from another state to idle. -/
def Retains (events : List Event) (data : OpenData) : Prop :=
  ∃ before since, events = before ++ .opened data :: since ∧ (∀ other, .opened other ∉ since) ∧
    ∀ mid rest, since = mid ++ .transition .idle :: rest → fsmAfter (before ++ .opened data :: mid) = .idle

theorem not_retains_nil : ¬ Retains [] data := by
  rintro ⟨before, since, h, -⟩
  simp at h

theorem retains_opened {other : OpenData} : Retains (events ++ [.opened other]) data ↔ other = data := by
  constructor
  · rintro ⟨before, since, heq, hlast, -⟩
    rcases Lists.concat_eq_append_cons_iff.mp heq with ⟨-, -, hevent⟩ | ⟨more, rfl, -⟩
    · exact Event.opened.inj hevent
    · exact absurd (List.mem_append_right more (List.mem_singleton_self _)) (hlast other)
  · rintro rfl
    exact ⟨events, [], rfl, by simp, by simp⟩

theorem retains_concat (hevent : ∀ other, event ≠ .opened other) :
    Retains (events ++ [event]) data ↔
      Retains events data ∧ (event = .transition .idle → fsmAfter events = .idle) := by
  constructor
  · rintro ⟨before, since, heq, hlast, hkept⟩
    rcases Lists.concat_eq_append_cons_iff.mp heq with ⟨-, -, rfl⟩ | ⟨more, rfl, rfl⟩
    · exact absurd rfl (hevent data)
    · refine ⟨⟨before, more, rfl, fun other hmem => hlast other (List.mem_append_left _ hmem), ?_⟩, ?_⟩
      · rintro mid rest rfl
        refine hkept mid (rest ++ [event]) ?_
        rw [List.append_assoc, List.cons_append]
      · rintro rfl
        exact hkept more [] rfl
  · rintro ⟨⟨before, since, rfl, hlast, hkept⟩, hidle⟩
    refine ⟨before, since ++ [event], by simp, fun other hmem => ?_, fun mid rest heq => ?_⟩
    · rcases List.mem_append.mp hmem with hmem | hmem
      · exact hlast other hmem
      · exact hevent other (List.mem_singleton.mp hmem).symm
    · rcases Lists.concat_eq_append_cons_iff.mp heq with ⟨-, rfl, hevent⟩ | ⟨more, rfl, rfl⟩
      · exact hidle hevent
      · exact hkept mid more rfl

theorem State.remote_course (events : List Event) (data : OpenData) :
    (course events).remote = some data ↔ Retains events data := by
  induction events using List.reverseRecOn with
  | nil => exact iff_of_false (fun h => nomatch h) not_retains_nil
  | append_singleton events event ih =>
    rw [course_concat]
    cases event with
    | transition target =>
      have hother : ∀ other, Event.transition target ≠ .opened other := fun _ h => nomatch h
      rw [retains_concat hother, ← ih, ← fsm_course]
      simp only [apply, transition, Event.transition.injEq]
      by_cases hsame : (course events).fsm = target
      · simp [hsame]
      · by_cases htarget : target = .idle
        · subst htarget
          simp [hsame]
        · simp [hsame, htarget]
    | opened other => simp [apply, retains_opened]
    | sent kind =>
      have hother : ∀ other, Event.sent kind ≠ .opened other := fun _ h => nomatch h
      simp [retains_concat hother, ← ih, apply, count]
    | received kind =>
      have hother : ∀ other, Event.received kind ≠ .opened other := fun _ h => nomatch h
      simp [retains_concat hother, ← ih, apply, count]

end RouteServer.Session
