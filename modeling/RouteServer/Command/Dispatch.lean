import RouteServer.Command.Registry
import RouteServer.Schedule.Scheduler

/-! # Dispatching command lines

A command line is resolved and handed to its handler. The client gets the whole response and its marker
at once, or a task is queued that will write them; a line that cannot be carried out is answered by the
error marker alone.
-/

namespace RouteServer.Command

open Schedule

inductive Dispatched where
  | answered
  | scheduled (task : TaskId)
deriving DecidableEq, Repr

def Dispatched.render : Dispatched → String
  | answered => "answered"
  | scheduled task => "scheduled " ++ task.render

structure DispatchResult (P σ : Type) where
  outcome : Except DispatchError Dispatched
  sessions : P
  scheduler : Scheduler σ
  trace : Trace

namespace Registry

variable {P σ : Type}

def target : String := Log.part "dispatch"

def dispatchNote (i : Invocation) : Event :=
  .note {
    level := .debug, target, message := "dispatching command"
    fields := [Log.shown "service" i.service.render, Log.text "verb" i.verb,
      ("mode", i.mode.map .text), ("filter", i.filter.map .text)] }

/-- What the log says about a handler that does not do what its descriptor promises. -/
def contractNote (verb message : String) : Event :=
  .note { level := .warn, target, message, fields := [Log.text "verb" verb] }

def dispatch (r : Registry P σ) (service : Service) (line : String) (sessions : P)
    (configuration : Configuration) (scheduler : Scheduler σ) : DispatchResult P σ :=
  let failed : Event := .wrote service none (.marker .error)
  match r.resolve (Text.words line) with
  | none =>
    { outcome := .error (.unknownCommand line), sessions, scheduler, trace := [failed] }
  | some d =>
    let invocation := d.invocation service line
    let reply := d.handler invocation sessions configuration
    let before := [dispatchNote invocation, .invoked invocation] ++ reply.notes.map .note
    let sessions := reply.sessions
    match reply.outcome, d.isAsync with
    | .error cause, _ =>
      { outcome := .error (.failed d.verb cause), sessions, scheduler, trace := before ++ [failed] }
    | .ok (.answered lines), false =>
      { outcome := .ok .answered, sessions, scheduler
        trace := before ++ lines.map (fun text => .wrote service none (.line text)) ++
          [.wrote service none (.marker .done)] }
    | .ok (.scheduled sequence), true =>
      let (task, scheduler, trace) := scheduler.schedule service line sequence
      { outcome := .ok (.scheduled task), sessions, scheduler, trace := before ++ trace }
    | .ok (.answered _), true =>
      { outcome := .error (.brokenContract d.verb .scheduledOutput), sessions, scheduler
        trace := before ++ [contractNote d.verb "async handler answered", failed] }
    | .ok (.scheduled _), false =>
      { outcome := .error (.brokenContract d.verb .immediateAnswer), sessions, scheduler
        trace := before ++ [contractNote d.verb "sync handler scheduled", failed] }

end Registry

end RouteServer.Command
