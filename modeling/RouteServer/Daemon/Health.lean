import RouteServer.Daemon.Error

/-! # The stages of the daemon's life

Whoever looks after the daemon is told when it reaches a stage. The log has a record for each of them.
-/

namespace RouteServer

inductive HealthEvent where
  | bootstrapStarting
  | neighborsLoaded (count : Nat)
  | bootstrapSucceeded (settings : Settings)
  | bootstrapFailed (cause : BootstrapError)
  | listenerReady (endpoint : Endpoint)
  | reactorStopped

namespace HealthEvent

def target : String := Log.part "health"

def name : HealthEvent → String
  | bootstrapStarting => "bootstrap_starting"
  | neighborsLoaded _ => "neighbors_loaded"
  | bootstrapSucceeded _ => "bootstrap_succeeded"
  | bootstrapFailed _ => "bootstrap_failed"
  | listenerReady _ => "listener_ready"
  | reactorStopped => "reactor_stopped"

def sentence : HealthEvent → String
  | bootstrapStarting => "starting daemon bootstrap"
  | neighborsLoaded _ => "neighbor configuration loaded"
  | bootstrapSucceeded _ => "daemon bootstrap completed"
  | bootstrapFailed _ => "daemon bootstrap failed"
  | listenerReady _ => "control channel ready"
  | reactorStopped => "reactor stopped"

def details : HealthEvent → List (String × Option Log.FieldValue)
  | neighborsLoaded count => [Log.number "count" count]
  | bootstrapSucceeded s => [
      Log.shown "socket" s.daemonSocket.render,
      Log.shown "log_filter" s.logFilter,
      Log.shown "log_format" s.logFormat.render,
      ("neighbor_file", s.neighborFile.map .text)]
  | bootstrapFailed cause => [Log.shown "error" cause.message]
  | listenerReady endpoint => [Log.shown "endpoint" endpoint.render]
  | _ => []

/-- What the log says about the stage. Only a failure is an error. -/
def toRecord (e : HealthEvent) : Log.Record := {
  level := match e with
    | bootstrapFailed _ => .error
    | _ => .info
  target, message := e.sentence
  fields := Log.text "event" e.name :: e.details }

end HealthEvent

end RouteServer
