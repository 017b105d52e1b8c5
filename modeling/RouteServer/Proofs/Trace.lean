import RouteServer.Event

/-! # Views of a trace

What a trace says about one task and about one client, as lists that grow with the trace.
-/

namespace RouteServer

open Schedule

/-! ## One task -/

/-- The task that an event is about. -/
def Event.task? : Event → Option TaskId
  | .wrote _ task _ => task
  | .transition t => some t.task
  | .stepped task _ => some task
  | _ => none

/-- Whether an event belongs to a task of a client. -/
def Event.Concerns (service : Service) (id : TaskId) : Event → Prop
  | .note _ => True
  | .wrote s task _ => s = service ∧ task = some id
  | .transition t => t.service = service ∧ t.task = id
  | .stepped task _ => task = id
  | _ => False

namespace Trace

/-- What happened to a task. -/
def about (t : Trace) (id : TaskId) : Trace := t.filter fun e => e.task? = some id

/-- The answers of outputs to their steps. -/
def steps (t : Trace) : List (Except Command.CommandError Step) :=
  t.filterMap fun
    | .stepped _ result => some result
    | _ => none

/-- The states that tasks have entered. -/
def states (t : Trace) : List TaskState := t.transitions.map (·.state)

/-! ## One client -/

/-- The lines for a client. -/
def writtenTo (t : Trace) (service : Service) : List Output :=
  t.filterMap fun
    | .wrote s _ output => if s = service then some output else none
    | _ => none

/-- The bytes that have been read from a client. -/
def receivedFrom (t : Trace) (service : Service) : List UInt8 :=
  t.flatMap fun
    | .received s bytes => if s = service then bytes else []
    | _ => []

/-- The bytes that a client's socket has taken. -/
def sentTo (t : Trace) (service : Service) : List UInt8 :=
  t.flatMap fun
    | .sent s bytes => if s = service then bytes else []
    | _ => []

theorem writtenTo_eq (t : Trace) (service : Service) :
    t.writtenTo service =
      t.written.filterMap fun w => if w.1 = service then some w.2 else none := by
  rw [writtenTo, written, List.filterMap_filterMap]
  congr 1
  funext e
  cases e <;> rfl

theorem mem_written {t : Trace} {w : Service × Output} :
    w ∈ t.written ↔ ∃ task, .wrote w.1 task w.2 ∈ t := by
  rw [written, List.mem_filterMap]
  constructor
  · rintro ⟨e, he, hw⟩
    cases e with
    | wrote service task output =>
      obtain rfl := Option.some.inj hw
      exact ⟨task, he⟩
    | _ => cases hw
  · rintro ⟨task, h⟩
    exact ⟨_, h, rfl⟩

theorem mem_about {t : Trace} {id : TaskId} {e : Event} :
    e ∈ t.about id ↔ e ∈ t ∧ e.task? = some id := by
  simp [about]

theorem about_of_concerns {t : Trace} {service : Service} {id other : TaskId}
    (h : ∀ e ∈ t, e.Concerns service id) (hne : id ≠ other) : t.about other = [] := by
  rw [about, List.filter_eq_nil_iff]
  intro e he
  have hc := h e he
  cases e <;> simp_all [Event.Concerns, Event.task?]

/-! ## Growing traces -/

variable (t u : Trace)

@[simp] theorem about_nil (id : TaskId) : about [] id = [] := rfl

@[simp]
theorem about_append (id : TaskId) : about (t ++ u) id = t.about id ++ u.about id :=
  List.filter_append ..

@[simp]
theorem steps_append : steps (t ++ u) = t.steps ++ u.steps := List.filterMap_append ..

@[simp]
theorem transitions_append : transitions (t ++ u) = t.transitions ++ u.transitions :=
  List.filterMap_append ..

@[simp]
theorem states_append : states (t ++ u) = t.states ++ u.states := by
  simp [states]

@[simp]
theorem written_append : written (t ++ u) = t.written ++ u.written := List.filterMap_append ..

@[simp]
theorem writtenTo_append (service : Service) :
    writtenTo (t ++ u) service = t.writtenTo service ++ u.writtenTo service :=
  List.filterMap_append ..

@[simp]
theorem receivedFrom_append (service : Service) :
    receivedFrom (t ++ u) service = t.receivedFrom service ++ u.receivedFrom service :=
  List.flatMap_append ..

@[simp]
theorem sentTo_append (service : Service) :
    sentTo (t ++ u) service = t.sentTo service ++ u.sentTo service :=
  List.flatMap_append ..

theorem steps_flatMap {α : Type} (l : List α) (f : α → Trace) :
    steps (l.flatMap f) = l.flatMap fun a => (f a).steps := List.filterMap_flatMap ..

theorem states_flatMap {α : Type} (l : List α) (f : α → Trace) :
    states (l.flatMap f) = l.flatMap fun a => (f a).states := by
  rw [states, transitions, List.filterMap_flatMap, List.map_flatMap]
  rfl

theorem written_flatMap {α : Type} (l : List α) (f : α → Trace) :
    written (l.flatMap f) = l.flatMap fun a => (f a).written := List.filterMap_flatMap ..

theorem writtenTo_flatMap {α : Type} (l : List α) (f : α → Trace) (service : Service) :
    writtenTo (l.flatMap f) service = l.flatMap fun a => (f a).writtenTo service :=
  List.filterMap_flatMap ..

theorem receivedFrom_flatMap {α : Type} (l : List α) (f : α → Trace) (service : Service) :
    receivedFrom (l.flatMap f) service = l.flatMap fun a => (f a).receivedFrom service :=
  List.flatMap_assoc ..

theorem sentTo_flatMap {α : Type} (l : List α) (f : α → Trace) (service : Service) :
    sentTo (l.flatMap f) service = l.flatMap fun a => (f a).sentTo service :=
  List.flatMap_assoc ..

end Trace

/-! ## Traffic -/

/-- What passes between the daemon and one client: the lines that are written to it, the bytes that are
read from it, and the bytes that its socket takes. -/
@[ext]
structure Traffic where
  written : List Output := []
  received : List UInt8 := []
  sent : List UInt8 := []

namespace Traffic

instance : Append Traffic where
  append a b := ⟨a.written ++ b.written, a.received ++ b.received, a.sent ++ b.sent⟩

variable (a b c : Traffic)

@[simp] theorem written_append : (a ++ b).written = a.written ++ b.written := rfl
@[simp] theorem received_append : (a ++ b).received = a.received ++ b.received := rfl
@[simp] theorem sent_append : (a ++ b).sent = a.sent ++ b.sent := rfl

@[simp] theorem empty_append : ({} : Traffic) ++ a = a := rfl

@[simp]
theorem append_empty : a ++ ({} : Traffic) = a :=
  Traffic.ext (List.append_nil _) (List.append_nil _) (List.append_nil _)

theorem append_assoc : a ++ b ++ c = a ++ (b ++ c) :=
  Traffic.ext (List.append_assoc ..) (List.append_assoc ..) (List.append_assoc ..)

end Traffic

namespace Trace

def traffic (t : Trace) (service : Service) : Traffic :=
  ⟨t.writtenTo service, t.receivedFrom service, t.sentTo service⟩

@[simp] theorem traffic_nil (service : Service) : traffic [] service = {} := rfl

@[simp]
theorem traffic_append (t u : Trace) (service : Service) :
    traffic (t ++ u) service = t.traffic service ++ u.traffic service := by
  simp only [traffic, writtenTo_append, receivedFrom_append, sentTo_append]
  rfl

/-- Events by which nothing passes to or from any client. -/
def Quiet (t : Trace) : Prop :=
  ∀ e ∈ t, match e with
    | .wrote .. | .received .. | .sent .. => False
    | _ => True

theorem Quiet.traffic {t : Trace} (h : t.Quiet) (service : Service) : t.traffic service = {} := by
  induction t with
  | nil => rfl
  | cons e rest ih =>
    have hfirst := h e List.mem_cons_self
    rw [← ih fun e he => h e (List.mem_cons_of_mem _ he)]
    cases e with
    | wrote service task output => cases hfirst
    | received service bytes => cases hfirst
    | sent service bytes => cases hfirst
    | _ => rfl

theorem traffic_wrote (recipient : Service) (task : Option TaskId) (output : Output)
    (service : Service) : Trace.traffic [.wrote recipient task output] service =
      if service = recipient then { written := [output] } else {} := by
  by_cases h : recipient = service
  · simp [traffic, writtenTo, receivedFrom, sentTo, h]
  · simp [traffic, writtenTo, receivedFrom, sentTo, h, Ne.symm h]

theorem traffic_received (sender : Service) (bytes : List UInt8) (service : Service) :
    Trace.traffic (if bytes = [] then [] else [.received sender bytes]) service =
      if service = sender then { received := bytes } else {} := by
  by_cases h : sender = service
  · split <;> simp_all [traffic, writtenTo, receivedFrom, sentTo]
  · split <;> simp [traffic, writtenTo, receivedFrom, sentTo, h, Ne.symm h]

theorem traffic_sent (recipient : Service) (bytes : List UInt8) (service : Service) :
    Trace.traffic (if bytes = [] then [] else [.sent recipient bytes]) service =
      if service = recipient then { sent := bytes } else {} := by
  by_cases h : recipient = service
  · split <;> simp_all [traffic, writtenTo, receivedFrom, sentTo]
  · split <;> simp [traffic, writtenTo, receivedFrom, sentTo, h, Ne.symm h]

theorem traffic_map_wrote (recipient : Service) (task : Option TaskId) (outputs : List Output)
    (service : Service) : Trace.traffic (outputs.map (.wrote recipient task)) service =
      if service = recipient then { written := outputs } else {} := by
  induction outputs with
  | nil => simp
  | cons output rest ih =>
    rw [List.map_cons, ← List.singleton_append, traffic_append, ih, traffic_wrote]
    split <;> rfl

end Trace

end RouteServer
