import RouteServer.SystemError
import RouteServer.Text.Blank
import RouteServer.Text.Utf8

/-! # One client of the control channel

What a client sends is cut into command lines, whatever the pieces in which it arrives. What it is sent
waits in the order in which it was written until the socket takes it.
-/

namespace RouteServer.Channel

/-! ## Sockets -/

inductive ReadOutcome where
  | data (bytes : List UInt8)
  | ended
  | wouldBlock
  | interrupted
  | failed (cause : SystemError)
deriving DecidableEq, Repr

/-- What one write to a socket gives: how many bytes it took, all of them if there were fewer, or why it
took none. -/
inductive WriteOutcome where
  | accepted (count : Nat)
  | wouldBlock
  | interrupted
  | failed (cause : SystemError)
deriving DecidableEq, Repr

/-! ## Clients -/

def lineFeed : UInt8 := 10

/-- A client: the start of a line that is not complete, complete command lines, bytes to be sent,
whether its input has ended, and whether its connection is lost. -/
structure Client where
  unfinished : List UInt8 := []
  lines : List String := []
  outbound : List UInt8 := []
  inputEnded : Bool := false
  closed : Bool := false
deriving DecidableEq, Repr

namespace Client

/-- The most bytes that a line may have while it is not complete. -/
def maxLine : Nat := 65536

def readSize : Nat := 4096

/-- The most reads with data before the other clients have their turn. -/
def readBudget : Nat := 16

/-! ## Reading -/

/-- The command on a line, unless the line is blank. -/
def command? (line : List UInt8) : Option String :=
  let text := Text.trim (Utf8.decodeLossy line)
  if text = "" then none else some text

/-- Takes bytes in: complete lines become commands, the rest waits for its line feed. -/
def feed (c : Client) (bytes : List UInt8) : Client :=
  let pieces := (c.unfinished ++ bytes).splitOn lineFeed
  { c with
    unfinished := pieces.getLastD []
    lines := c.lines ++ pieces.dropLast.filterMap command? }

inductive Inbound where
  | waiting
  | ended
  | overlong
  | failed (cause : SystemError)
deriving DecidableEq, Repr

structure FillResult where
  client : Client
  inbound : Inbound
  received : List UInt8

/-- Reads until the socket has nothing more, the budget is used up or a line is too long. Where the
list of outcomes ends, the socket would block. -/
def fill : Nat → Client → List ReadOutcome → FillResult
  | 0, c, _ => ⟨c, .waiting, []⟩
  | _ + 1, c, [] => ⟨c, .waiting, []⟩
  | budget + 1, c, .data bytes :: rest =>
    let c := c.feed bytes
    if maxLine < c.unfinished.length then ⟨c, .overlong, bytes⟩
    else
      let r := fill budget c rest
      { r with received := bytes ++ r.received }
  | budget + 1, c, .interrupted :: rest => fill (budget + 1) c rest
  | _ + 1, c, .wouldBlock :: _ => ⟨c, .waiting, []⟩
  | _ + 1, c, .ended :: _ => ⟨c, .ended, []⟩
  | _ + 1, c, .failed cause :: _ => ⟨c, .failed cause, []⟩

/-! ## Writing -/

/-- Puts a line behind the bytes to be sent, unless the connection is lost. -/
def writeLine (c : Client) (line : String) : Client :=
  if c.closed then c
  else { c with outbound := c.outbound ++ Utf8.encode line ++ [lineFeed] }

/-- What is left of the bytes to be sent, those that the socket took, and why it fails. -/
structure DrainResult where
  outbound : List UInt8
  sent : List UInt8
  failure : Option SystemError

/-- Writes until nothing is left or the socket takes no more. Where the list of outcomes ends, the
socket would block. -/
def drain (outbound : List UInt8) : List WriteOutcome → DrainResult
  | [] => ⟨outbound, [], none⟩
  | outcome :: rest =>
    if outbound = [] then ⟨[], [], none⟩
    else match outcome with
      | .accepted 0 => ⟨outbound, [], some .writeZero⟩
      | .accepted (n + 1) =>
        let r := drain (outbound.drop (n + 1)) rest
        { r with sent := outbound.take (n + 1) ++ r.sent }
      | .wouldBlock => ⟨outbound, [], none⟩
      | .interrupted => drain outbound rest
      | .failed cause => ⟨outbound, [], some cause⟩

end Client

end RouteServer.Channel
