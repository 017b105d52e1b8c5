import RouteServer.Channel.Clients
import RouteServer.Command.Dispatch

/-! # The reactor

One turn takes new clients in, reads what clients have sent, drops those that failed, dispatches at most
one command of each client that has no task, gives every task one step, and sends what there is to send.
A client's next command waits until the one before it has been answered.
-/

namespace RouteServer

open Channel Command Schedule

structure Reactor (P σ : Type) where
  clients : Clients := {}
  registry : Registry P σ
  scheduler : Scheduler σ := {}
  sessions : P
  configuration : Configuration

/-- What the outside does in one turn: how many clients connect, and how sockets answer. -/
structure Surroundings where
  arrivals : Nat := 0
  reads : Service → List ReadOutcome := fun _ => []
  writes : Service → List WriteOutcome := fun _ => []

namespace Reactor

variable {P σ : Type}

def target : String := Log.part "reactor"

/-- A state with what led to it, and whether anything was done. -/
structure Turn (P σ : Type) where
  reactor : Reactor P σ
  busy : Bool := false
  trace : Trace := []

/-! ## The phases of a turn -/

def accept (r : Reactor P σ) : Nat → Turn P σ
  | 0 => { reactor := r }
  | n + 1 =>
    let (_, clients, trace) := r.clients.register
    let rest := accept { r with clients } n
    { rest with busy := true, trace := trace ++ rest.trace }

def departedNote (t : Transition) : Event :=
  .note { level := .debug, target, message := "task of departed client cancelled"
          fields := [Log.shown "task" t.task.render, Log.shown "service" t.service.render] }

/-- Cancels the tasks of a client and removes it. -/
def dropService (r : Reactor P σ) (service : Service) : Turn P σ :=
  let (scheduler, cancelled) := r.scheduler.cancelFor service
  let (clients, removed) := r.clients.remove service
  { reactor := { r with scheduler, clients }
    trace := cancelled ++ cancelled.transitions.map departedNote ++ removed }

/-- Drops clients. It counts as work if there are any. -/
def dropServices (r : Reactor P σ) : List Service → Turn P σ
  | [] => { reactor := r }
  | service :: services =>
    let first := r.dropService service
    let rest := first.reactor.dropServices services
    { rest with busy := true, trace := first.trace ++ rest.trace }

/-- Reads from the clients and drops those that failed. -/
def read (r : Reactor P σ) (reads : Service → List ReadOutcome) : Turn P σ :=
  let (clients, failed, trace) := r.clients.readAvailable reads
  let dropped := { r with clients }.dropServices failed
  { dropped with trace := trace ++ dropped.trace }

def outcomeText : Dispatched → String
  | .answered => "Answered"
  | .scheduled task => "Scheduled(TaskId(" ++ toString task.number ++ "))"

def dispatchedNote (service : Service) : Except DispatchError Dispatched → Event
  | .ok outcome =>
    .note { level := .debug, target, message := "command accepted"
            fields := [Log.shown "service" service.render, Log.shown "outcome" (outcomeText outcome)] }
  | .error cause =>
    .note { level := .warn, target, message := "command failed"
            fields := [Log.shown "service" service.render, Log.shown "error" cause.message] }

/-- Dispatches the oldest command of a client that has no task. -/
def dispatchFor (r : Reactor P σ) (service : Service) : Turn P σ :=
  if r.scheduler.isBusy service then { reactor := r }
  else match r.clients.nextLine service with
    | (none, _) => { reactor := r }
    | (some line, clients) =>
      let result := r.registry.dispatch service line r.sessions r.configuration r.scheduler
      { reactor := { r with
          clients := clients.deliver result.trace
          sessions := result.sessions
          scheduler := result.scheduler }
        busy := true
        trace := result.trace ++ [dispatchedNote service result.outcome] }

def dispatchAll (r : Reactor P σ) : List Service → Turn P σ
  | [] => { reactor := r }
  | service :: services =>
    let first := r.dispatchFor service
    let rest := first.reactor.dispatchAll services
    { rest with busy := first.busy || rest.busy, trace := first.trace ++ rest.trace }

def context [Session.Provider P] (r : Reactor P σ) : StepContext :=
  ⟨Session.Provider.view r.sessions, r.configuration⟩

def tick [Session.Provider P] [OutputSequence σ] (r : Reactor P σ) : Turn P σ :=
  if r.scheduler.isEmpty then { reactor := r }
  else
    let (scheduler, trace) := r.scheduler.tick r.clients.isConnected r.context
    { reactor := { r with scheduler, clients := r.clients.deliver trace }, busy := true, trace }

/-- Sends to the clients and drops those that failed. That alone does not count as work. -/
def flush (r : Reactor P σ) (writes : Service → List WriteOutcome) : Turn P σ :=
  let (clients, failed, trace) := r.clients.flush writes
  let dropped := { r with clients }.dropServices failed
  { dropped with busy := false, trace := trace ++ dropped.trace }

/-- Drops the clients that will send no more and have been answered. -/
def dropFinished (r : Reactor P σ) : Turn P σ :=
  r.dropServices (r.clients.finished.filter fun service => !r.scheduler.isBusy service)

/-! ## A turn -/

def Turn.andThen (t : Turn P σ) (next : Reactor P σ → Turn P σ) : Turn P σ :=
  let n := next t.reactor
  { reactor := n.reactor, busy := t.busy || n.busy, trace := t.trace ++ n.trace }

variable [Session.Provider P] [OutputSequence σ]

def turn (r : Reactor P σ) (outside : Surroundings) : Turn P σ :=
  (r.accept outside.arrivals)
    |>.andThen (·.read outside.reads)
    |>.andThen (fun r => r.dispatchAll r.clients.withPendingLines)
    |>.andThen tick
    |>.andThen (·.flush outside.writes)
    |>.andThen dropFinished

/-! ## Beginning and end -/

def runningNote (endpoint : String) : Event :=
  .note { level := .info, target, message := "reactor running"
          fields := [Log.shown "endpoint" endpoint] }

def stoppingNote (r : Reactor P σ) : Event :=
  .note { level := .info, target, message := "reactor stopping"
          fields := [Log.number "services" r.clients.size, Log.number "tasks" r.scheduler.size] }

end Reactor

end RouteServer
