import RouteServer.Command.Dispatch

/-! # A console

Command lines are dispatched and tasks are stepped by hand, without sockets and without a reactor that
holds a client's next command back. Clients are known only by whether they are connected.
-/

namespace RouteServer

open Command Schedule

structure Console (P σ : Type) where
  registry : Registry P σ
  scheduler : Scheduler σ := {}
  sessions : P
  configuration : Configuration
  connected : List Service := []

namespace Console

variable {P σ : Type}

/-! ## Clients -/

def isConnected (c : Console P σ) (service : Service) : Bool := service ∈ c.connected

/-- Connects a client: whether it was not connected before. -/
def connect (c : Console P σ) (service : Service) : Bool × Console P σ :=
  (!c.isConnected service,
    { c with connected := c.connected.filter (· ≠ service) ++ [service] })

def disconnect (c : Console P σ) (service : Service) : Bool × Console P σ :=
  (c.isConnected service, { c with connected := c.connected.filter (· ≠ service) })

/-- The lines that reach clients: those for clients that are not connected are lost. -/
def delivered (c : Console P σ) (trace : Trace) : List (Service × Output) :=
  trace.written.filter fun (service, _) => c.isConnected service

/-! ## Commands and tasks -/

def dispatch (c : Console P σ) (service : Service) (line : String) :
    Except DispatchError Dispatched × Trace × Console P σ :=
  let r := c.registry.dispatch service line c.sessions c.configuration c.scheduler
  (r.outcome, r.trace, { c with sessions := r.sessions, scheduler := r.scheduler })

def schedule (c : Console P σ) (service : Service) (command : String) (sequence : σ) :
    TaskId × Trace × Console P σ :=
  let (id, scheduler, trace) := c.scheduler.schedule service command sequence
  (id, trace, { c with scheduler })

def cancel (c : Console P σ) (service : Service) : Trace × Console P σ :=
  let (scheduler, trace) := c.scheduler.cancelFor service
  (trace, { c with scheduler })

variable [Session.Provider P] [OutputSequence σ]

def tick (c : Console P σ) : Trace × Console P σ :=
  let (scheduler, trace) :=
    c.scheduler.tick c.isConnected ⟨Session.Provider.view c.sessions, c.configuration⟩
  (trace, { c with scheduler })

/-- Ticks until no task is left, at most `limit` times: how many ticks it took. -/
def run (c : Console P σ) : Nat → Nat × Trace × Console P σ
  | 0 => (0, [], c)
  | limit + 1 =>
    if c.scheduler.isEmpty then (0, [], c)
    else
      let (trace, c) := c.tick
      let (n, more, c) := c.run limit
      (n + 1, trace ++ more, c)

end Console

end RouteServer
