import RouteServer.Channel.Clients

/-! # Connections

A connection is a pipe each way between a client and the daemon. What one end writes is there for the
other end at once. A client that leaves while something it was sent is unread resets the connection.
-/

namespace RouteServer.Channel

/-- A connection by what is in its pipes and which ends are still open. -/
structure Pipe where
  toDaemon : List UInt8 := []
  toClient : List UInt8 := []
  inputShut : Bool := false
  clientGone : Bool := false
  wasReset : Bool := false
  daemonGone : Bool := false
deriving DecidableEq, Repr

namespace Pipe

/-! ## The daemon's end -/

/-- Cuts bytes into the pieces that single reads take. -/
def chunks : Nat → List UInt8 → List (List UInt8)
  | 0, _ => []
  | _, [] => []
  | n + 1, bytes => bytes.take Client.readSize :: chunks n (bytes.drop Client.readSize)

/-- What reads by the daemon give: the waiting bytes first, then the end of the input. -/
def reads (p : Pipe) : List ReadOutcome :=
  (chunks Client.readBudget p.toDaemon).map .data ++
    [if p.wasReset then .failed .connectionReset
     else if p.inputShut || p.clientGone then .ended
     else .wouldBlock]

/-- More bytes than are ever sent at once. -/
def room : Nat := UInt64.size

/-- What writes by the daemon give: there is room for everything until the client is gone. -/
def writes (p : Pipe) : List WriteOutcome :=
  [if p.clientGone then .failed .brokenPipe else .accepted room]

def taken (p : Pipe) (count : Nat) : Pipe := { p with toDaemon := p.toDaemon.drop count }

def filled (p : Pipe) (bytes : List UInt8) : Pipe := { p with toClient := p.toClient ++ bytes }

/-! ## The client's end -/

def send (p : Pipe) (bytes : List UInt8) : Option Pipe :=
  if p.inputShut || p.clientGone || p.daemonGone then none
  else some { p with toDaemon := p.toDaemon ++ bytes }

def shut (p : Pipe) : Pipe := { p with inputShut := true }

def close (p : Pipe) : Pipe :=
  { p with clientGone := true, wasReset := p.wasReset || p.toClient ≠ [], toClient := [] }

/-- The complete lines that the client has been sent, and the pipe without them. -/
def receive (p : Pipe) : List String × Pipe :=
  let pieces := p.toClient.splitOn lineFeed
  (pieces.dropLast.map Utf8.decodeLossy, { p with toClient := pieces.getLastD [] })

end Pipe

/-! ## All connections -/

structure Network where
  pipes : Keyed Service Pipe := {}
deriving DecidableEq

namespace Network

def reads (n : Network) (service : Service) : List ReadOutcome :=
  ((n.pipes.get? service).map Pipe.reads).getD []

def writes (n : Network) (service : Service) : List WriteOutcome :=
  ((n.pipes.get? service).map Pipe.writes).getD []

def modify (n : Network) (service : Service) (f : Pipe → Pipe) : Network :=
  { pipes := n.pipes.modify service f }

def apply (n : Network) : Event → Network
  | .joined service => if n.pipes.contains service then n else { pipes := n.pipes.insert service {} }
  | .received service bytes => n.modify service fun p => p.taken bytes.length
  | .sent service bytes => n.modify service fun p => p.filled bytes
  | .left service => n.modify service fun p => { p with daemonGone := true }
  | _ => n

def after (n : Network) (trace : Trace) : Network := trace.foldl apply n

end Network

end RouteServer.Channel
