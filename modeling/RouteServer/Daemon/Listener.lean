import RouteServer.Address.Parser
import RouteServer.Address.Printer
import RouteServer.Endpoint.Basic
import RouteServer.Event
import RouteServer.Files.Tree

/-! # The listener of the control channel

A listener takes an endpoint for itself. A Unix socket that nobody listens on any more is replaced; one
that is alive, and anything that is no socket, is left alone.
-/

namespace RouteServer

/-! ## Faults -/

inductive ListenerError where
  | resolve (host : String) (port : UInt16) (cause : SystemError)
  | bindTcp (address : Address) (port : UInt16) (cause : SystemError)
  | bindUnix (path : String) (cause : SystemError)
  | unixInUse (path : String)
  | unixNotSocket (path : String)
  | unixConnect (path : String) (cause : SystemError)
  | unixCleanup (path : String) (cause : SystemError)
deriving DecidableEq, Repr

/-- An address with a port; one that holds colons stands in brackets. -/
def renderTcp (address : Address) (port : UInt16) : String :=
  (match address with
    | .v4 _ => address.render
    | .v6 _ => "[" ++ address.render ++ "]") ++ ":" ++ toString port.toNat

def ListenerError.message : ListenerError → String
  | resolve host port cause =>
    "control host " ++ host ++ ":" ++ toString port.toNat ++ " did not resolve: " ++ cause.message
  | bindTcp address port cause =>
    "cannot listen for control clients on " ++ renderTcp address port ++ ": " ++ cause.message
  | bindUnix path cause => "cannot listen for control clients on " ++ path ++ ": " ++ cause.message
  | unixInUse path => "control socket " ++ path ++ " is held by a running daemon"
  | unixNotSocket path => "control socket path " ++ path ++ " exists and is not a socket"
  | unixConnect path cause =>
    "cannot check whether control socket " ++ path ++ " is live: " ++ cause.message
  | unixCleanup path cause => "cannot remove stale control socket " ++ path ++ ": " ++ cause.message

/-! ## Listening -/

/-- What a listener shares with other programs: the files, and the ports that are taken. -/
structure Surface where
  files : Files.Tree := {}
  ports : List (Address × UInt16) := []

/-- A listener by the endpoint that it was asked for and, for TCP, the address and port it has got. -/
structure Listener where
  endpoint : Endpoint
  bound : Option (Address × UInt16)
deriving DecidableEq, Repr

namespace Listener

def target : String := Log.part "transport"

/-- Clears the way for a Unix socket: a socket that nobody listens on is removed. -/
def clear (t : Files.Tree) (path : String) : Except ListenerError Files.Tree :=
  if !t.hasPath path then .ok t
  else match t.find false path with
    | .ok (_, .socket _) =>
      match t.connectSocket path with
      | .ok () => .error (.unixInUse path)
      | .error .connectionRefused => (t.remove path).mapError (.unixCleanup path)
      | .error cause => .error (.unixConnect path cause)
    | _ => .error (.unixNotSocket path)

def bindUnix (t : Files.Tree) (path : String) : Except ListenerError Files.Tree := do
  let t ← clear t path
  (t.bindSocket path).mapError (.bindUnix path)

def firstFreePort : Nat := 32768

/-- The port that a listener gets which asks for `port`; zero stands for any that is free. -/
def choosePort (ports : List (Address × UInt16)) (address : Address) (port : UInt16) :
    Option UInt16 :=
  let isFree (p : UInt16) : Bool := (address, p) ∉ ports
  if port ≠ 0 then if isFree port then some port else none
  else ((List.range (65536 - firstFreePort)).map fun n => UInt16.ofNat (firstFreePort + n)).find? isFree

/-- The address that a host is: only addresses themselves are known. -/
def resolve (host : String) (port : UInt16) : Except ListenerError Address :=
  match Address.parse? host with
  | some address => .ok address
  | none =>
    .error (.resolve host port (if '\x00' ∈ host.toList then .fileNameWithNul else .unknownHost))

/-- Why nobody can listen on an address. The host may listen on every IPv4 address, but has no IPv6
address of its own; that of a group, or one that is known on a single link, would have to come with the
name of the link. -/
def bindFault? : Address → Option SystemError
  | .v4 _ => none
  | .v6 address =>
    if address.isMulticast || address.isLinkLocal then some .invalidArgument
    else if address.toNat = 0 || address.mapped?.isSome then none
    else some .addressNotAvailable

def readyNote (endpoint : Endpoint) : Event :=
  .note { level := .info, target, message := "control socket listening"
          fields := [Log.shown "endpoint" endpoint.render] }

def bind (s : Surface) (endpoint : Endpoint) : Except ListenerError (Listener × Surface × Trace) := do
  match endpoint with
  | .unix path =>
    let files ← bindUnix s.files path
    return (⟨endpoint, none⟩, { s with files }, [readyNote endpoint])
  | .tcp host port =>
    let address ← resolve host port
    match bindFault? address, choosePort s.ports address port with
    | some cause, _ => throw (.bindTcp address port cause)
    | none, none => throw (.bindTcp address port .addressInUse)
    | none, some chosen =>
      return (⟨endpoint, some (address, chosen)⟩, { s with ports := s.ports ++ [(address, chosen)] },
        [readyNote endpoint])

/-- Stops listening. A Unix socket is removed from its place, whatever stands there by now. -/
def close (l : Listener) (s : Surface) : Surface × Trace :=
  let s := { s with ports := s.ports.filter fun p => some p ≠ l.bound }
  match l.endpoint.unixPath? with
  | none => (s, [])
  | some path =>
    match s.files.remove path with
    | .ok files => ({ s with files }, [])
    | .error .notFound => (s, [])
    | .error cause =>
      (s, [.note { level := .warn, target, message := "failed to remove unix socket file"
                   fields := [Log.shown "error" cause.message, Log.shown "path" path] }])

end Listener

end RouteServer
