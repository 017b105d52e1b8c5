import RouteServer.Command.Service
import RouteServer.Command.Error
import RouteServer.Config.Parser
import RouteServer.Session.Snapshot

/-! # Tasks

Long responses are produced one step at a time, each by a task of its own. A step sees the sessions and the
configuration as they are at that moment.
-/

namespace RouteServer.Schedule

/-! ## Output sequences -/

structure StepContext where
  sessions : Session.View
  configuration : Configuration

/-- The result of a step: a line, nothing yet, or the end of the output. -/
inductive Step where
  | line (text : String)
  | idle
  | exhausted
deriving DecidableEq, Repr

class OutputSequence (σ : Type) where
  step : StepContext → σ → Except Command.CommandError Step × σ

/-! ## The life of a task -/

/-- A task by its number. Numbers are given out once, from one on. -/
structure TaskId where
  number : Nat
deriving DecidableEq, Repr

def TaskId.render (id : TaskId) : String := "task-" ++ toString id.number

inductive TaskState where
  | pending
  | running
  | completed
  | cancelled
  | failed
deriving DecidableEq, Repr

namespace TaskState

def isTerminal : TaskState → Bool
  | completed | cancelled | failed => true
  | _ => false

def render : TaskState → String
  | pending => "Pending"
  | running => "Running"
  | completed => "Completed"
  | cancelled => "Cancelled"
  | failed => "Failed"

end TaskState

structure Transition where
  task : TaskId
  service : Service
  state : TaskState
deriving DecidableEq, Repr

end RouteServer.Schedule
