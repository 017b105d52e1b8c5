import RouteServer.Report.Record
import RouteServer.Report.Table
import RouteServer.Schedule.Task
import RouteServer.Text.Blank

/-! # Listings

The output of the commands that show neighbors. Peers are listed at the first step and each is looked
at when its turn comes, so that the listing shows what is true at that moment.
-/

namespace RouteServer.Command

open Schedule

/-! ## Kinds of listing -/

/-- A listing of peers: one row each, or one block each. -/
inductive PeerView where
  | summary
  | extensive
deriving DecidableEq, Repr

/-- Whether a filter picks a peer: the summary by the address itself, the extensive listing by any
part of the name. -/
def PeerView.selects (view : PeerView) (sessions : Session.View) (key : Session.Key)
    (filter : String) : Bool :=
  match view with
  | summary => (sessions.address key).any fun a => a.render = filter
  | extensive => (sessions.name key).any fun name => Text.contains name filter

/-- A peer listing: the filter, the peers to come, if they are known yet, and lines that wait. -/
structure PeerListing where
  view : PeerView
  filter : Option String
  keys : Option (List Session.Key) := none
  waiting : List String := []
deriving DecidableEq, Repr

/-- A listing of the configuration: the filter, the place of the next neighbor, and lines that wait. -/
structure ConfigurationListing where
  filter : Option String
  next : Nat := 0
  waiting : List String := []
deriving DecidableEq, Repr

inductive Listing where
  | prepared (steps : List (StepContext → Except CommandError Step))
  | peers (listing : PeerListing)
  | configuration (listing : ConfigurationListing)
  /-- All sessions as one line of JSON. -/
  | json (written : Bool)

/-! ## Steps -/

namespace PeerListing

def showPeer (l : PeerListing) (sessions : Session.View) (key : Session.Key)
    (rest : List Session.Key) : Step × PeerListing :=
  let l := { l with keys := some rest }
  if l.filter.any fun f => !l.view.selects sessions key f then (.idle, l)
  else match sessions.snapshot key with
    | none => (.idle, l)
    | some s =>
      match l.view with
      | .summary => (.line (Report.summaryRow s), l)
      | .extensive =>
        match Report.extensive s with
        | [] => (.idle, l)
        | first :: more => (.line first, { l with waiting := more })

def step (l : PeerListing) (sessions : Session.View) : Step × PeerListing :=
  match l.waiting with
  | line :: more => (.line line, { l with waiting := more })
  | [] =>
    match l.keys with
    | none =>
      let l := { l with keys := some sessions.keys }
      match l.view with
      | .summary => (.line Report.summaryHeader, l)
      | .extensive => (.idle, l)
    | some [] => (.exhausted, l)
    | some (key :: rest) => l.showPeer sessions key rest

end PeerListing

def ConfigurationListing.step (l : ConfigurationListing) (c : Configuration) :
    Step × ConfigurationListing :=
  match l.waiting with
  | line :: more => (.line line, { l with waiting := more })
  | [] =>
    match c.neighbors[l.next]? with
    | none => (.exhausted, l)
    | some n =>
      let l := { l with next := l.next + 1 }
      if l.filter.any fun f => !Text.contains n.name f then (.idle, l)
      else match Text.lines n.render with
        | [] => (.idle, l)
        | first :: more => (.line first, { l with waiting := more })

namespace Listing

def ofLines (lines : List String) : Listing :=
  prepared (lines.map fun line _ => .ok (.line line))

def step (context : StepContext) : Listing → Except CommandError Step × Listing
  | prepared [] => (.ok .exhausted, prepared [])
  | prepared (first :: rest) => (first context, prepared rest)
  | peers l =>
    let (result, next) := l.step context.sessions
    (.ok result, peers next)
  | configuration l =>
    let (result, next) := l.step context.configuration
    (.ok result, configuration next)
  | json true => (.ok .exhausted, json true)
  | json false =>
    (.ok (.line (Report.json (context.sessions.keys.filterMap context.sessions.snapshot))), json true)

instance : OutputSequence Listing where
  step := step

end Listing

end RouteServer.Command
