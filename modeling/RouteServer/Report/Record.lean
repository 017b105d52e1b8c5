import RouteServer.Address.Printer
import RouteServer.Json.Printer
import RouteServer.Session.Snapshot

/-! # Reports for programs

The same data as an array of JSON objects on one line. Objects that are keyed by names list them in
order.
-/

namespace RouteServer.Report

open Session Json

structure Side where
  capabilities : Keyed String (Option Bool)
  families : Keyed String Bool
  addPath : Keyed String Bool
  address : Address
  asNumber : Option UInt32
  id : Option IPv4
  hold : Option UInt16
deriving DecidableEq

structure Record where
  state : String
  duration : Nat
  fsm : String
  ours : Side
  theirs : Side
  sent : Keyed String Nat
  received : Keyed String Nat
  capabilities : List String
  families : List String
  addPath : Keyed String String
deriving DecidableEq

namespace Record

/-- A value for each family, by the family's text. -/
def perFamily (s : Snapshot) (f : FamilyState → α) : Keyed String α :=
  .ofList <| s.families.toList.map fun (family, state) => (family.render, f state)

def ofSnapshot (s : Snapshot) : Record where
  state := s.uptime.label
  duration := s.uptime.seconds
  fsm := s.fsm.render
  ours := {
    capabilities := s.capabilities.mapEntries fun _ c => c.ours
    families := perFamily s (·.ours)
    addPath := perFamily s (·.sends)
    address := s.localAddress
    asNumber := some s.localAs
    id := some s.localId
    hold := some s.localHold }
  theirs := {
    capabilities := s.capabilities.mapEntries fun _ c => c.theirs
    families := perFamily s (·.theirs)
    addPath := perFamily s (·.receives)
    address := s.peerAddress
    asNumber := s.peerAs
    id := s.peerId
    hold := s.peerHold }
  sent := s.messages.mapEntries fun _ c => c.sent
  received := s.messages.mapEntries fun _ c => c.received
  capabilities := (s.capabilities.toList.filter fun (_, c) => c.both).map (·.1)
  families := (s.families.toList.filter fun (_, f) => f.both).map fun (family, _) => family.render
  addPath := perFamily s (·.addPath.render)

/-! ## As JSON -/

def keyed (encode : α → Value) (m : Keyed String α) : Value :=
  .object (m.toList.map fun (name, a) => (name, encode a))

def side (s : Side) : Value := .object [
  ("capabilities", keyed (.ofOption .bool) s.capabilities),
  ("families", keyed .bool s.families),
  ("add-path", keyed .bool s.addPath),
  ("address", .string s.address.render),
  ("as", .ofOption (fun n => .ofNat n.toNat) s.asNumber),
  ("id", .ofOption (fun i => .string i.render) s.id),
  ("hold", .ofOption (fun n => .ofNat n.toNat) s.hold)]

def toValue (r : Record) : Value := .object [
  ("state", .string r.state),
  ("duration", .ofNat r.duration),
  ("fsm", .string r.fsm),
  ("local", side r.ours),
  ("peer", side r.theirs),
  ("messages", .object [("sent", keyed .ofNat r.sent), ("received", keyed .ofNat r.received)]),
  ("capabilities", .strings r.capabilities),
  ("families", .strings r.families),
  ("add-path", keyed .string r.addPath)]

end Record

def json (snapshots : List Snapshot) : String :=
  (Value.array (snapshots.map fun s => (Record.ofSnapshot s).toValue)).render

end RouteServer.Report
