import RouteServer.Address.Printer
import RouteServer.Family
import RouteServer.Keyed
import RouteServer.Log.Record

/-! # Sessions as commands see them

A snapshot is what is known of one session at one moment: both ends, the state of the protocol, the
capabilities and families that each end announced, and how many messages of each kind went either way.
Commands do not care where sessions come from. They look at a view of them and may ask for a session to
be torn down.
-/

namespace RouteServer.Session

/-! ## Keys -/

structure Key where
  localAddress : Address
  peerAddress : Address
deriving DecidableEq, Repr

namespace Key

instance : Ord Key where
  compare := compareLex (compareOn localAddress) (compareOn peerAddress)

instance : Std.TransOrd Key :=
  inferInstanceAs (Std.TransCmp (compareLex (compareOn localAddress) (compareOn peerAddress)))

def render (key : Key) : String := key.peerAddress.render ++ "-" ++ key.localAddress.render

end Key

/-! ## Protocol state -/

/-- The state of the BGP finite state machine. -/
inductive FsmState where
  | idle
  | active
  | connect
  | openSent
  | openConfirm
  | established
deriving DecidableEq, Repr

namespace FsmState

def all : List FsmState := [idle, active, connect, openSent, openConfirm, established]

def render : FsmState → String
  | idle => "IDLE"
  | active => "ACTIVE"
  | connect => "CONNECT"
  | openSent => "OPENSENT"
  | openConfirm => "OPENCONFIRM"
  | established => "ESTABLISHED"

def isEstablished (s : FsmState) : Bool := s = established

end FsmState

inductive Uptime where
  | up (seconds : Nat)
  | down (seconds : Nat)
deriving DecidableEq, Repr

namespace Uptime

def isUp : Uptime → Bool
  | up _ => true
  | down _ => false

def seconds : Uptime → Nat
  | up n => n
  | down n => n

def label : Uptime → String
  | up _ => "up"
  | down _ => "down"

end Uptime

/-! ## Messages -/

inductive MessageKind where
  | openMessage
  | update
  | notification
  | keepalive
  | routeRefresh
deriving DecidableEq, Repr

namespace MessageKind

def all : List MessageKind := [openMessage, update, notification, keepalive, routeRefresh]

def render : MessageKind → String
  | openMessage => "open"
  | update => "update"
  | notification => "notification"
  | keepalive => "keepalive"
  | routeRefresh => "refresh"

end MessageKind

structure Counter where
  sent : Nat := 0
  received : Nat := 0
deriving DecidableEq, Repr

/-! ## Capabilities and families -/

/-- Whether each end announced a capability, where that is known. -/
structure Capability where
  ours : Option Bool
  theirs : Option Bool
deriving DecidableEq, Repr

/-- Whether both ends are known to have announced the capability. -/
def Capability.both (c : Capability) : Bool := c.ours = some true ∧ c.theirs = some true

/-- Directions in which several paths are exchanged for one route. -/
inductive AddPath where
  | sendReceive
  | send
  | receive
  | disabled
deriving DecidableEq, Repr

namespace AddPath

def all : List AddPath := [sendReceive, send, receive, disabled]

def ofFlags (send receive : Bool) : AddPath :=
  match send, receive with
  | true, true => sendReceive
  | true, false => AddPath.send
  | false, true => AddPath.receive
  | false, false => disabled

def sends : AddPath → Bool
  | sendReceive | send => true
  | _ => false

def receives : AddPath → Bool
  | sendReceive | receive => true
  | _ => false

def render : AddPath → String
  | sendReceive => "send/receive"
  | send => "send"
  | receive => "receive"
  | disabled => "disabled"

end AddPath

structure FamilyState where
  ours : Bool := false
  theirs : Bool := false
  sends : Bool := false
  receives : Bool := false
deriving DecidableEq, Repr

namespace FamilyState

def both (s : FamilyState) : Bool := s.ours && s.theirs

def addPath (s : FamilyState) : AddPath := .ofFlags s.sends s.receives

end FamilyState

/-! ## Snapshots -/

/-- One session at one moment. What only the peer tells is missing while it has told nothing. -/
structure Snapshot where
  localAddress : Address
  peerAddress : Address
  localAs : UInt32
  peerAs : Option UInt32
  localId : IPv4
  peerId : Option IPv4
  localHold : UInt16
  peerHold : Option UInt16
  fsm : FsmState
  uptime : Uptime
  capabilities : Keyed String Capability
  families : Keyed Family FamilyState
  messages : Keyed String Counter
deriving DecidableEq

namespace Snapshot

def updates (s : Snapshot) : Counter := (s.messages.get? "update").getD {}

end Snapshot

/-! ## Sources of sessions -/

structure View where
  keys : List Key
  established : List Key
  name : Key → Option String
  address : Key → Option Address
  snapshot : Key → Option Snapshot

/-- A source of sessions: a view of it, and the request to tear a session down with a code, which may
be reported in the log. -/
class Provider (P : Type) where
  view : P → View
  teardown : P → Key → UInt32 → P × List Log.Record

end RouteServer.Session
