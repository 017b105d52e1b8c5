import RouteServer.Session.Snapshot

/-! # Recorded sessions

Sessions whose data are given once and change only by hand. A request to tear one down is written down
and has no other effect.
-/

namespace RouteServer.Session

/-- The answers for one key. -/
structure RecordedEntry where
  name : Option String
  address : Option Address
  established : Bool
  snapshot : Option Snapshot
deriving DecidableEq

/-- Recorded sessions and the requests so far. -/
structure Recorded where
  entries : Keyed Key RecordedEntry := {}
  requests : List (Key × UInt32) := []
deriving DecidableEq

namespace Recorded

def ofList (entries : List (Key × RecordedEntry)) : Recorded := { entries := .ofList entries }

def set (r : Recorded) (key : Key) (entry : RecordedEntry) : Recorded :=
  { r with entries := r.entries.insert key entry }

def remove (r : Recorded) (key : Key) : Recorded := { r with entries := r.entries.erase key }

def view (r : Recorded) : View where
  keys := r.entries.keys
  established := (r.entries.toList.filter fun (_, e) => e.established).map (·.1)
  name key := (r.entries.get? key).bind (·.name)
  address key := (r.entries.get? key).bind (·.address)
  snapshot key := (r.entries.get? key).bind (·.snapshot)

instance : Provider Recorded where
  view := view
  teardown r key code := ({ r with requests := r.requests ++ [(key, code)] }, [])

end Recorded

end RouteServer.Session
