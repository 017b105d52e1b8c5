import RouteServer.Config.Parser
import RouteServer.Session.Snapshot

/-! # The table of sessions

One session for each configured neighbor. Events of the protocol change a session, snapshots show it,
and requests to tear sessions down wait until the protocol takes them.
-/

namespace RouteServer.Session

/-! ## One session -/

/-- What the peer's OPEN message says. -/
structure OpenData where
  peerAs : UInt32
  routerId : IPv4
  holdTime : UInt16
  capabilities : Keyed String Unit
  families : Keyed Family Unit
  addPath : Keyed Family AddPath
deriving DecidableEq

inductive Event where
  | transition (state : FsmState)
  | opened (data : OpenData)
  | sent (kind : MessageKind)
  | received (kind : MessageKind)
deriving DecidableEq

instance : Ord MessageKind where
  compare := compareOn MessageKind.all.idxOf

instance : Std.TransOrd MessageKind :=
  inferInstanceAs (Std.TransCmp (compareOn MessageKind.all.idxOf))

/-- The state of a session. `changedAt` is the moment, in milliseconds, at which it last
went up or down. -/
structure State where
  fsm : FsmState := .idle
  changedAt : Nat
  remote : Option OpenData := none
  messages : Keyed MessageKind Counter := {}
deriving DecidableEq

namespace State

/-- Goes to another state of the protocol. A session that becomes idle forgets what its peer said. -/
def transition (s : State) (now : Nat) (target : FsmState) : State :=
  if s.fsm = target then s
  else
    { s with
      fsm := target
      changedAt := if s.fsm.isEstablished || target.isEstablished then now else s.changedAt
      remote := if target = .idle then none else s.remote }

def count (s : State) (kind : MessageKind) (step : Counter → Counter) : State :=
  { s with messages := s.messages.upsert kind fun c => step (c.getD {}) }

def apply (s : State) (now : Nat) : Event → State
  | .transition target => s.transition now target
  | .opened data => { s with remote := some data }
  | .sent kind => s.count kind fun c => { c with sent := c.sent + 1 }
  | .received kind => s.count kind fun c => { c with received := c.received + 1 }

def uptime (s : State) (now : Nat) : Uptime :=
  let seconds := (now - s.changedAt) / 1000
  if s.fsm.isEstablished then .up seconds else .down seconds

end State

/-! ## Snapshots -/

/-- The key of a neighbor's session; without a local address it is the unspecified one. -/
def Key.ofNeighbor (n : Neighbor) : Key :=
  ⟨n.localAddress.getD n.peerAddress.unspecifiedLike, n.peerAddress⟩

/-- The identifier that we send: the configured one, or else a local IPv4 address. -/
def localId (key : Key) (n : Neighbor) : IPv4 :=
  n.routerId.getD <|
    match key.localAddress with
    | .v4 address => address
    | .v6 _ => .unspecified

/-- The capabilities that we announce; that of several protocols goes with configured families. -/
def ownCapabilities (n : Neighbor) : List (String × Bool) :=
  [("asn4", true), ("multiprotocol", !n.families.isEmpty), ("route-refresh", true)]

/-- Our capabilities and those that only the peer announced. -/
def capabilities (n : Neighbor) (remote : Option OpenData) : Keyed String Capability :=
  let ours := Keyed.ofList <| (ownCapabilities n).map fun (name, flag) =>
    (name, { ours := some flag, theirs := remote.map fun r => r.capabilities.contains name })
  match remote with
  | none => ours
  | some r => r.capabilities.keys.foldl
      (fun m name => m.upsert name (·.getD { ours := some false, theirs := some true })) ours

/-- The configured families and those that the peer announced or wants several paths for. -/
def families (n : Neighbor) (remote : Option OpenData) : Keyed Family FamilyState :=
  let ours := Keyed.ofList <| n.families.toList.map fun f => (f, { ours := true })
  match remote with
  | none => ours
  | some r =>
    let announced := r.families.keys.foldl
      (fun m f => m.upsert f fun s => { s.getD {} with theirs := true }) ours
    r.addPath.toList.foldl (fun m (f, mode) =>
      m.upsert f fun s => { s.getD {} with sends := mode.sends, receives := mode.receives }) announced

def messages (s : State) : Keyed String Counter :=
  .ofList <| MessageKind.all.map fun kind => (kind.render, (s.messages.get? kind).getD {})

def snapshot (now : Nat) (key : Key) (n : Neighbor) (s : State) : Snapshot where
  localAddress := key.localAddress
  peerAddress := key.peerAddress
  localAs := n.localAs
  peerAs := s.remote.map (·.peerAs)
  localId := localId key n
  peerId := s.remote.map (·.routerId)
  localHold := n.holdTime
  peerHold := s.remote.map (·.holdTime)
  fsm := s.fsm
  uptime := s.uptime now
  capabilities := capabilities n s.remote
  families := families n s.remote
  messages := messages s

/-! ## The table -/

structure Entry where
  neighbor : Neighbor
  state : State
deriving DecidableEq

/-- All sessions, the requests to tear sessions down that nobody has taken yet, and the present
moment in milliseconds. -/
structure Table where
  entries : Keyed Key Entry := {}
  teardowns : Keyed Key UInt32 := {}
  now : Nat := 0
deriving DecidableEq

namespace Table

def target : String := Log.part "peers"

/-- Gives a neighbor a fresh session, instead of one with the same key. -/
def addNeighbor (t : Table) (n : Neighbor) : Table :=
  { t with entries := t.entries.insert (Key.ofNeighbor n) ⟨n, { changedAt := t.now }⟩ }

def addNeighbors (t : Table) (ns : List Neighbor) : Table := ns.foldl addNeighbor t

def ofConfiguration (c : Configuration) : Table := ({} : Table).addNeighbors c.neighbors

def size (t : Table) : Nat := t.entries.size

def contains (t : Table) (key : Key) : Bool := t.entries.contains key

def advance (t : Table) (milliseconds : Nat) : Table := { t with now := t.now + milliseconds }

/-- Applies an event to a session. An event for an unknown session changes nothing. -/
def update (t : Table) (key : Key) (event : Event) : Table :=
  { t with entries := t.entries.modify key fun e => { e with state := e.state.apply t.now event } }

def updateNotes (t : Table) (key : Key) : Event → List Log.Record
  | .transition state =>
    match t.entries.get? key with
    | none => []
    | some e =>
      [{ level := .debug, target, message := "session state changed"
         fields := [Log.shown "peer" key.render, Log.shown "from" e.state.fsm.render,
           Log.shown "to" state.render] }]
  | _ => []

/-- Makes a session idle and notes the request for the protocol. -/
def teardown (t : Table) (key : Key) (code : UInt32) : Table :=
  if t.contains key then
    { t with
      entries := t.entries.modify key fun e => { e with state := e.state.transition t.now .idle }
      teardowns := t.teardowns.insert key code }
  else t

def teardownNotes (t : Table) (key : Key) (code : UInt32) : List Log.Record :=
  if t.contains key then
    [{ level := .info, target, message := "session teardown requested"
       fields := [Log.shown "peer" key.render, Log.number "code" code.toNat] }]
  else []

/-- The requests since the last time, and the table without them. -/
def takeTeardowns (t : Table) : List (Key × UInt32) × Table :=
  (t.teardowns.toList, { t with teardowns := {} })

/-- The number of requests that wait to be taken. -/
def pendingTeardowns (t : Table) : Nat := t.teardowns.size

def snapshot? (t : Table) (key : Key) : Option Snapshot :=
  (t.entries.get? key).map fun e => snapshot t.now key e.neighbor e.state

def established (t : Table) : List Key :=
  (t.entries.toList.filter fun (_, e) => e.state.fsm.isEstablished).map (·.1)

def view (t : Table) : View where
  keys := t.entries.keys
  established := t.established
  name key := (t.entries.get? key).map (·.neighbor.name)
  address key := (t.entries.get? key).map (·.neighbor.peerAddress)
  snapshot := t.snapshot?

instance : Provider Table where
  view := view
  teardown t key code := (t.teardown key code, t.teardownNotes key code)

end Table

end RouteServer.Session
