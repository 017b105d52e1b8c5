import RouteServer.Event

/-! # The task scheduler

Commands with long output are queued as tasks. A tick takes each queued task once from the front of the
queue, gives it a step and puts it behind the others, so that no response keeps the others waiting. A task
ends when its output is exhausted, when a step fails, or when its client is gone.
-/

namespace RouteServer.Schedule

structure Task (σ : Type) where
  id : TaskId
  service : Service
  command : String
  sequence : σ
  createdAt : Nat
  state : TaskState := .pending

namespace Task

variable {σ : Type}

def enter (t : Task σ) (state : TaskState) : Event := .transition ⟨t.id, t.service, state⟩

def target : String := Log.part "scheduler"

def note (level : Log.Level) (message : String) (fields : List (String × Option Log.FieldValue)) :
    Event :=
  .note { level, target, message, fields }

/-- Gives the task a step at the moment `now`: what is left of it, and what happened. -/
def advance [OutputSequence σ] (connected : Service → Bool) (context : StepContext) (now : Nat)
    (t : Task σ) : Option (Task σ) × Trace :=
  if !connected t.service then
    (none, [t.enter .cancelled,
      note .debug "client gone; task cancelled"
        [Log.shown "task" t.id.render, Log.shown "service" t.service.render]])
  else
    let (result, sequence) := OutputSequence.step context t.sequence
    let started := (if t.state = .pending then [t.enter .running] else []) ++ [.stepped t.id result]
    let next := { t with state := .running, sequence }
    match result with
    | .ok (.line text) => (some next, started ++ [.wrote t.service t.id (.line text)])
    | .ok .idle => (some next, started)
    | .ok .exhausted =>
      (none, started ++ [.wrote t.service t.id (.marker .done), t.enter .completed,
        note .debug "task completed"
          [Log.shown "task" t.id.render, Log.text "command" t.command,
            Log.number "elapsed_ms" (now - t.createdAt)]])
    | .error cause =>
      (none, started ++ [.wrote t.service t.id (.marker .error), t.enter .failed,
        note .warn "task failed"
          [Log.shown "task" t.id.render, Log.text "command" t.command,
            Log.shown "error" cause.message]])

end Task

/-- The queue of tasks, the number of the task created last, and the present moment in milliseconds. -/
structure Scheduler (σ : Type) where
  queue : List (Task σ) := []
  lastId : Nat := 0
  now : Nat := 0

namespace Scheduler

variable {σ : Type}

def schedule (s : Scheduler σ) (service : Service) (command : String) (sequence : σ) :
    TaskId × Scheduler σ × Trace :=
  let id : TaskId := ⟨s.lastId + 1⟩
  let task : Task σ := { id, service, command, sequence, createdAt := s.now }
  (id, { s with queue := s.queue ++ [task], lastId := s.lastId + 1 },
    [Task.note .debug "task scheduled"
      [Log.shown "task" id.render, Log.shown "service" service.render, Log.text "command" command]])

/-- Takes the first task from the queue and gives it a step. A task that is not over goes behind the others. -/
def rotate [OutputSequence σ] (connected : Service → Bool) (context : StepContext) (s : Scheduler σ) :
    Scheduler σ × Trace :=
  match s.queue with
  | [] => (s, [])
  | t :: rest =>
    let (left, trace) := t.advance connected context s.now
    ({ s with queue := rest ++ left.toList }, trace)

def rotations [OutputSequence σ] (connected : Service → Bool) (context : StepContext) :
    Nat → Scheduler σ → Scheduler σ × Trace
  | 0, s => (s, [])
  | n + 1, s =>
    let (next, trace) := s.rotate connected context
    let (last, more) := next.rotations connected context n
    (last, trace ++ more)

/-- Rotates the queue as often as it has tasks at the beginning. -/
def tick [OutputSequence σ] (s : Scheduler σ) (connected : Service → Bool) (context : StepContext) :
    Scheduler σ × Trace :=
  s.rotations connected context s.queue.length

def cancelFor (s : Scheduler σ) (service : Service) : Scheduler σ × Trace :=
  let dropped := s.queue.filter (·.service = service)
  let summary :=
    if dropped.isEmpty then []
    else [Task.note .debug "tasks cancelled"
      [Log.shown "service" service.render, Log.number "cancelled" dropped.length]]
  ({ s with queue := s.queue.filter (·.service ≠ service) },
    dropped.map (·.enter .cancelled) ++ summary)

def isBusy (s : Scheduler σ) (service : Service) : Bool := s.queue.any (·.service = service)

def size (s : Scheduler σ) : Nat := s.queue.length

def isEmpty (s : Scheduler σ) : Bool := s.queue.isEmpty

def elapse (s : Scheduler σ) (milliseconds : Nat) : Scheduler σ := { s with now := s.now + milliseconds }

end Scheduler

end RouteServer.Schedule
