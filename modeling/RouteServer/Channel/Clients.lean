import RouteServer.Channel.Client
import RouteServer.Event
import RouteServer.Keyed

/-! # The clients of the control channel

Each operation goes over the clients in the order of their numbers, and none of them looks at more than
one client at a time.
-/

namespace RouteServer.Channel

/-- The clients that are there, and the number of the client that came last. -/
structure Clients where
  entries : Keyed Service Client := {}
  lastId : Nat := 0
deriving DecidableEq

namespace Clients

def target : String := Log.part "transport"

def note (level : Log.Level) (message : String) (fields : List (String × Option Log.FieldValue)) :
    Event :=
  .note { level, target, message, fields }

def serviceField (service : Service) : String × Option Log.FieldValue :=
  Log.shown "service" service.render

/-! ## Joining and leaving -/

/-- Takes a new client in, under a number that no client has had. -/
def register (cs : Clients) : Service × Clients × Trace :=
  let service : Service := ⟨cs.lastId + 1⟩
  (service, { entries := cs.entries.insert service {}, lastId := cs.lastId + 1 },
    [.joined service, note .debug "service connected" [serviceField service]])

def remove (cs : Clients) (service : Service) : Clients × Trace :=
  if cs.entries.contains service then
    ({ cs with entries := cs.entries.erase service },
      [.left service, note .debug "service removed" [serviceField service]])
  else (cs, [])

def size (cs : Clients) : Nat := cs.entries.size

def isEmpty (cs : Clients) : Bool := cs.entries.isEmpty

def isConnected (cs : Clients) (service : Service) : Bool :=
  (cs.entries.get? service).any fun c => !c.closed

/-! ## All clients at once -/

/-- What an operation does to one client: the client after it, whether it has failed, and what
happened. -/
structure Progress where
  client : Client
  failed : Bool := false
  trace : Trace := []

/-- Applies an operation to every client: the clients after it, those that have failed, and what
happened. -/
def visit (cs : Clients) (operation : Service → Client → Progress) :
    Clients × List Service × Trace :=
  let results := cs.entries.mapEntries operation
  ({ cs with entries := results.mapEntries fun _ r => r.client },
    (results.toList.filter fun (_, r) => r.failed).map (·.1),
    results.toList.flatMap fun (_, r) => r.trace)

def those (cs : Clients) (p : Client → Bool) : List Service :=
  (cs.entries.toList.filter fun (_, c) => p c).map (·.1)

/-! ## Reading -/

def readClient (outcomes : List ReadOutcome) (service : Service) (c : Client) : Progress :=
  if c.closed || c.inputEnded then { client := c }
  else
    let r := Client.fill Client.readBudget c outcomes
    let received : Trace := if r.received = [] then [] else [.received service r.received]
    match r.inbound with
    | .waiting => { client := r.client, trace := received }
    | .ended =>
      { client := { r.client with inputEnded := true }
        trace := received ++ [note .debug "input finished" [serviceField service]] }
    | .overlong =>
      { client := { r.client with closed := true }, failed := true
        trace := received ++ [note .warn "command line too long"
          [serviceField service, Log.number "limit" Client.maxLine]] }
    | .failed cause =>
      { client := { r.client with closed := true }, failed := true
        trace := received ++ [note .warn "read failed"
          [serviceField service, Log.shown "error" cause.message]] }

def readAvailable (cs : Clients) (reads : Service → List ReadOutcome) :
    Clients × List Service × Trace :=
  cs.visit fun service c => readClient (reads service) service c

/-- The oldest command of a client, and the clients without it. -/
def nextLine (cs : Clients) (service : Service) : Option String × Clients :=
  match cs.entries.get? service with
  | none => (none, cs)
  | some c =>
    if c.closed then (none, cs)
    else match c.lines with
      | [] => (none, cs)
      | line :: rest =>
        (some line, { cs with entries := cs.entries.modify service fun c => { c with lines := rest } })

def takeLines (cs : Clients) (service : Service) : List String × Clients :=
  match cs.entries.get? service with
  | none => ([], cs)
  | some c =>
    if c.closed then ([], cs)
    else (c.lines, { cs with entries := cs.entries.modify service fun c => { c with lines := [] } })

def withPendingLines (cs : Clients) : List Service := cs.those fun c => !c.closed && c.lines ≠ []

/-- The clients that will send no more and have nothing left to be done or to be sent. -/
def finished (cs : Clients) : List Service :=
  cs.those fun c => c.inputEnded && c.lines = [] && c.outbound = []

/-! ## Writing -/

def writeLine (cs : Clients) (service : Service) (line : String) : Clients :=
  { cs with entries := cs.entries.modify service fun c => c.writeLine line }

/-- Puts the lines that were written behind what the clients are to be sent. -/
def deliver (cs : Clients) (trace : Trace) : Clients :=
  trace.written.foldl (fun cs (service, output) => cs.writeLine service output.render) cs

def flushClient (outcomes : List WriteOutcome) (service : Service) (c : Client) : Progress :=
  if c.closed then { client := c }
  else
    let r := Client.drain c.outbound outcomes
    let sent : Trace := if r.sent = [] then [] else [.sent service r.sent]
    let c := { c with outbound := r.outbound }
    match r.failure with
    | none => { client := c, trace := sent }
    | some cause =>
      { client := { c with closed := true }, failed := true
        trace := sent ++ [note .debug "write failed"
          [serviceField service, Log.shown "error" cause.message]] }

def flush (cs : Clients) (writes : Service → List WriteOutcome) : Clients × List Service × Trace :=
  cs.visit fun service c => flushClient (writes service) service c

end Clients

end RouteServer.Channel
