import RouteServer.Proofs.Channel.Framing
import RouteServer.Proofs.Command.Response
import RouteServer.Proofs.Schedule.Client

/-! # One client of the reactor

The daemon as one of its clients sees it: a cell that holds the client, the outputs that are under way for
it, and whether its number has been given out. `Acts` is a run of a cell.
-/

namespace RouteServer

open Channel Command Schedule

/-- What the daemon holds under one number. -/
structure Cell (σ : Type) where
  client : Option Client := none
  outputs : List σ := []
  given : Bool := false

namespace Cell

variable {P σ : Type}

def connected (cell : Cell σ) : Bool := cell.client.any fun c => !c.closed

theorem connected_eq {cell : Cell σ} {c : Client} (h : cell.client = some c) :
    cell.connected = !c.closed := by
  rw [connected, h]
  rfl

theorem disconnected_of_closed {cell next : Cell σ} {c c' : Client} (hc : cell.client = some c)
    (hc' : next.client = some c') (hclosed : c.closed = true → c'.closed = true)
    (h : cell.connected = false) : next.connected = false := by
  rw [connected_eq hc, Bool.not_eq_false'] at h
  rw [connected_eq hc', hclosed h]
  rfl

variable [OutputSequence σ] (registry : Registry P σ) (configuration : Configuration)
  (service : Service)

/-! ## What can happen -/

/-- One thing that happens to a cell, and what passes to or from the client by it. -/
inductive Act : Cell σ → Traffic → Cell σ → Prop
  /-- A client joins under a number that is still free. -/
  | join (cell : Cell σ) (hfree : cell.given = false) :
    Act cell {} { cell with client := some {}, given := true }
  /-- Bytes are read in pieces, and the client may be found to have failed. -/
  | read (cell : Cell σ) (c : Client) (pieces : List (List UInt8)) (inputEnded closed : Bool)
    (hc : cell.client = some c) (hclosed : c.closed = true → closed = true) :
    Act cell { received := pieces.flatten }
      { cell with client := some { pieces.foldl Client.feed c with inputEnded, closed } }
  /-- The client leaves or is dropped, and its outputs with it. -/
  | leave (cell : Cell σ) : Act cell {} { cell with client := none, outputs := [] }
  /-- The oldest command is answered at once, while no output is under way. -/
  | answer (cell : Cell σ) (c : Client) (line : String) (rest : List String) (output : List Output)
    (hc : cell.client = some c) (hopen : c.closed = false) (hidle : cell.outputs = [])
    (hlines : c.lines = line :: rest)
    (hresponse : Responds registry configuration service line output) :
    Act cell { written := output }
      { cell with client := some { c with lines := rest, outbound := c.outbound ++ encode output } }
  /-- The output of the oldest command is scheduled, while no other is under way. -/
  | schedule (cell : Cell σ) (c : Client) (line : String) (rest : List String) (sequence : σ)
    (hc : cell.client = some c) (hopen : c.closed = false) (hidle : cell.outputs = [])
    (hlines : c.lines = line :: rest)
    (hbegins : Begins registry configuration service line sequence) :
    Act cell {} { cell with client := some { c with lines := rest }, outputs := [sequence] }
  /-- Every output that is under way is stepped. -/
  | step (cell : Cell σ) (c : Client) (context : StepContext) (hc : cell.client = some c)
    (hopen : c.closed = false) :
    Act cell { written := cell.outputs.flatMap (Schedule.given context) }
      { cell with
        client := some
          { c with outbound := c.outbound ++ encode (cell.outputs.flatMap (Schedule.given context)) }
        outputs := cell.outputs.filterMap (proceed context) }
  /-- Outputs for a client that is not connected are dropped. -/
  | abandon (cell : Cell σ) (hgone : cell.connected = false) : Act cell {} { cell with outputs := [] }
  /-- The socket takes some of the bytes that wait, and may be found to have failed. -/
  | send (cell : Cell σ) (c : Client) (sent outbound : List UInt8) (closed : Bool)
    (hc : cell.client = some c) (hout : c.outbound = sent ++ outbound)
    (hclosed : c.closed = true → closed = true) :
    Act cell { sent } { cell with client := some { c with outbound, closed } }

/-- Several things that happen one after the other. -/
inductive Acts : Cell σ → Traffic → Cell σ → Prop
  | refl (cell : Cell σ) : Acts cell {} cell
  | head {a b c : Cell σ} {t u : Traffic} (hfirst : Act registry configuration service a t b)
    (hrest : Acts b u c) : Acts a (t ++ u) c

variable {registry configuration service}

theorem Act.once {a b : Cell σ} {t : Traffic} (h : Act registry configuration service a t b) :
    Acts registry configuration service a t b := by
  have := Acts.head h (.refl b)
  rwa [Traffic.append_empty] at this

theorem Acts.trans {a b c : Cell σ} {t u : Traffic} (h : Acts registry configuration service a t b)
    (h' : Acts registry configuration service b u c) :
    Acts registry configuration service a (t ++ u) c := by
  induction h with
  | refl cell => exact h'
  | head hfirst hrest ih =>
    rw [Traffic.append_assoc]
    exact .head hfirst (ih h')

end Cell

end RouteServer
