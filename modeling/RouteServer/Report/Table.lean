import RouteServer.Address.Printer
import RouteServer.Session.Snapshot
import RouteServer.Text.Decimal

/-! # Reports for reading

The summary gives one line for each session, the extensive report a block of tables. Cells stand in
columns of fixed width: they are padded with spaces to a width counted in characters, and a cell that is
wider is kept whole.
-/

namespace RouteServer.Text

/-- As many spaces as the text needs to reach `width` characters. -/
def filler (width : Nat) (text : String) : String :=
  .ofList (List.replicate (width - text.length) ' ')

def alignLeft (width : Nat) (text : String) : String := text ++ filler width text

def alignRight (width : Nat) (text : String) : String := filler width text ++ text

end RouteServer.Text

namespace RouteServer.Report

open Session

/-! ## Durations

Hours without padding, minutes and seconds with two digits, and the days in front if there are any.
-/

def secondsPerDay : Nat := 86400

/-- Hours, minutes and seconds of a part of a day. -/
def clock (seconds : Nat) : String :=
  toString (seconds / 3600) ++ ":" ++ Decimal.twoDigits (seconds % 3600 / 60) ++ ":" ++
    Decimal.twoDigits (seconds % 60)

/-- The days in front of the clock. -/
def dayPart : Nat → String
  | 0 => ""
  | 1 => "1 day, "
  | days => toString days ++ " days, "

def duration (seconds : Nat) : String :=
  dayPart (seconds / secondsPerDay) ++ clock (seconds % secondsPerDay)

/-! ## Cells -/

def orUnknown (render : α → String) : Option α → String
  | some a => render a
  | none => "n/a"

def flag : Option Bool → String := orUnknown fun b => if b then "enabled" else "disabled"

def number (n : Nat) : String := toString n

/-! ## Summary -/

def summaryHeader : String := "Peer            AS        up/down state       |     #sent     #recvd"

/-- Peer address, its AS number, uptime, state, and the update messages of both directions. -/
def summaryRow (s : Snapshot) : String :=
  Text.unwords [
    Text.alignLeft 15 s.peerAddress.render,
    Text.alignLeft 7 (orUnknown (number ·.toNat) s.peerAs),
    Text.alignRight 9 (if s.uptime.isUp then duration s.uptime.seconds else "down"),
    Text.alignLeft 12 (Text.lowercase s.fsm.render),
    Text.alignRight 10 (number s.updates.sent),
    Text.alignRight 10 (number s.updates.received)]

/-! ## Extensive report -/

def row (label first second third : String) : String :=
  "   " ++ Text.unwords
    [Text.alignLeft 20 label, Text.alignRight 15 first, Text.alignRight 15 second,
      Text.alignRight 15 third]

def capabilityRow (name : String) (c : Capability) : String :=
  row (name ++ ":") (flag c.ours) (flag c.theirs) ""

def familyRow (family : Family) (s : FamilyState) : String :=
  row (family.render ++ ":") (flag (some s.ours)) (flag (some s.theirs)) s.addPath.render

def messageRow (name : String) (c : Counter) : String :=
  row (name ++ ":") (number c.sent) (number c.received) ""

/-- The block of one session; an empty line ends each of its tables. -/
def extensive (s : Snapshot) : List String :=
  ["Neighbor " ++ s.peerAddress.render, "",
    "    Session                         Local",
    row "local" s.localAddress.render "" "",
    row "state" s.fsm.render "" "",
    row (if s.uptime.isUp then "up for" else "down for") (duration s.uptime.seconds) "" "",
    "",
    "    Setup                           Local          Remote",
    row "AS" (number s.localAs.toNat) (orUnknown (number ·.toNat) s.peerAs) "",
    row "ID" s.localId.render (orUnknown IPv4.render s.peerId) "",
    row "hold-time" (number s.localHold.toNat) (orUnknown (number ·.toNat) s.peerHold) "",
    "",
    "    Capability                      Local          Remote"] ++
  s.capabilities.toList.map (fun (name, c) => capabilityRow name c) ++
  ["", "    Families                        Local          Remote        Add-Path"] ++
  s.families.toList.map (fun (family, state) => familyRow family state) ++
  ["", "    Message Statistic                Sent        Received"] ++
  s.messages.toList.map (fun (name, c) => messageRow name c) ++
  [""]

end RouteServer.Report
