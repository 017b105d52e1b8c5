import RouteServer.Command.Service
import RouteServer.Log.Record
import RouteServer.Schedule.Task

/-! # Events

The operations of the daemon are functions on its state; beside the new state they return what
happened, in order. What a client receives, what the log says and what became of a task are read off
the list of events.
-/

namespace RouteServer

inductive Event where
  | note (record : Log.Record)
  /-- A command line has been resolved and is handed to its handler. -/
  | invoked (invocation : Command.Invocation)
  /-- A line for a client, on behalf of a task or as an immediate answer. -/
  | wrote (service : Service) (task : Option Schedule.TaskId) (output : Output)
  | transition (transition : Schedule.Transition)
  /-- The output of a task has been asked for its next step, and this was the answer. -/
  | stepped (task : Schedule.TaskId) (result : Except Command.CommandError Schedule.Step)
  | joined (service : Service)
  | received (service : Service) (bytes : List UInt8)
  /-- A client's socket has taken bytes. -/
  | sent (service : Service) (bytes : List UInt8)
  /-- A client has left or has been dropped. -/
  | left (service : Service)
deriving Repr

/-- What happened, in order. -/
abbrev Trace := List Event

namespace Trace

def notes (t : Trace) : List Log.Record :=
  t.filterMap fun
    | .note r => some r
    | _ => none

def written (t : Trace) : List (Service × Output) :=
  t.filterMap fun
    | .wrote service _ output => some (service, output)
    | _ => none

def transitions (t : Trace) : List Schedule.Transition :=
  t.filterMap fun
    | .transition x => some x
    | _ => none

def invocations (t : Trace) : List Command.Invocation :=
  t.filterMap fun
    | .invoked i => some i
    | _ => none

end Trace

end RouteServer
