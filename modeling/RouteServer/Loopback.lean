import RouteServer.Channel.Pipe
import RouteServer.Reactor

/-! # A reactor with connections in memory

Clients connect, send, receive and leave through pipes. A client that has connected is taken in by the
next turn; clients are numbered in the order in which they connect.
-/

namespace RouteServer

open Channel Schedule

/-- A reactor, the connections to it, how many clients wait to be taken in, and how many have ever
connected. -/
structure Loopback (P σ : Type) where
  reactor : Reactor P σ
  network : Network := {}
  arrivals : Nat := 0
  connected : Nat := 0

namespace Loopback

variable {P σ : Type}

/-! ## Clients -/

def connect (l : Loopback P σ) : Service × Loopback P σ :=
  let service : Service := ⟨l.connected + 1⟩
  (service, { l with
    network := { pipes := l.network.pipes.insert service {} }
    arrivals := l.arrivals + 1
    connected := l.connected + 1 })

def isOpen (l : Loopback P σ) (service : Service) : Bool :=
  (l.network.pipes.get? service).any fun p => !p.clientGone

/-- A client sends bytes; nothing is sent if its connection does not take them. -/
def send (l : Loopback P σ) (service : Service) (bytes : List UInt8) : Bool × Loopback P σ :=
  match (l.network.pipes.get? service).bind (·.send bytes) with
  | none => (false, l)
  | some p => (true, { l with network := l.network.modify service fun _ => p })

def shutdown (l : Loopback P σ) (service : Service) : Bool × Loopback P σ :=
  (l.isOpen service, { l with network := l.network.modify service Pipe.shut })

def close (l : Loopback P σ) (service : Service) : Loopback P σ :=
  { l with network := l.network.modify service Pipe.close }

/-- What a client finds: the lines since the last time, and whether the daemon has hung up. -/
structure Received where
  lines : List String
  closed : Bool
deriving DecidableEq, Repr

/-- A client takes what it was sent; it must not have left. -/
def receive (l : Loopback P σ) (service : Service) : Option Received × Loopback P σ :=
  match l.network.pipes.get? service with
  | none => (none, l)
  | some p =>
    if p.clientGone then (none, l)
    else
      let (lines, p') := p.receive
      (some { lines, closed := p.daemonGone },
        { l with network := l.network.modify service fun _ => p' })

/-! ## Turns -/

variable [Session.Provider P] [OutputSequence σ]

/-- One turn of the reactor: whether anything was done, and what happened. -/
def turn (l : Loopback P σ) : Bool × Trace × Loopback P σ :=
  let t := l.reactor.turn
    { arrivals := l.arrivals, reads := l.network.reads, writes := l.network.writes }
  (t.busy, t.trace,
    { l with reactor := t.reactor, network := l.network.after t.trace, arrivals := 0 })

def turns (l : Loopback P σ) : Nat → List Bool × Trace × Loopback P σ
  | 0 => ([], [], l)
  | n + 1 =>
    let (busy, trace, l) := l.turn
    let (later, more, l) := l.turns n
    (busy :: later, trace ++ more, l)

/-- Turns until nothing is to be done, at most `limit` of them: how many did something. -/
def settle (l : Loopback P σ) : Nat → Nat × Trace × Loopback P σ
  | 0 => (0, [], l)
  | limit + 1 =>
    let (busy, trace, l) := l.turn
    if busy then
      let (n, more, l) := l.settle limit
      (n + 1, trace ++ more, l)
    else (0, trace, l)

/-- Turns, at most `limit` of them, until a client has received `count` lines in all or its connection
has ended: what it has received. -/
def turnUntil (l : Loopback P σ) (service : Service) (count : Nat) :
    Nat → Option Received × Trace × Loopback P σ
  | 0 => (some { lines := [], closed := false }, [], l)
  | limit + 1 =>
    let (_, trace, l) := l.turn
    match l.receive service with
    | (none, l) => (none, trace, l)
    | (some r, l) =>
      if r.closed || count ≤ r.lines.length then (some r, trace, l)
      else
        let (later, more, l) := l.turnUntil service (count - r.lines.length) limit
        (later.map fun s => { s with lines := r.lines ++ s.lines }, trace ++ more, l)

def hangUp (l : Loopback P σ) : Loopback P σ :=
  { l with network := { pipes := l.network.pipes.mapEntries fun _ p => { p with daemonGone := true } } }

end Loopback

end RouteServer
