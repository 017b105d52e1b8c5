import RouteServer.Daemon.Bootstrap
import RouteServer.Loopback

/-! # Running

A daemon that has started listens, takes turns until it is told to stop, and then gives its socket up.
-/

namespace RouteServer

/-- A daemon at work, and the machine that it runs on. -/
structure Running where
  machine : Machine
  listener : Listener
  service : Loopback Session.Table Command.Listing

namespace Machine

def processTarget : String := Log.part "process"

def processNote (message : String) : Event := .note { level := .info, target := processTarget, message }

def listen (m : Machine) (endpoint : Endpoint) : Except ListenerError Listener × Machine :=
  match Listener.bind m.surface endpoint with
  | .ok (listener, surface, trace) => (.ok listener, { m with surface }.record trace)
  | .error cause => (.error cause, m)

def hush (m : Machine) (listener : Listener) : Machine :=
  let (surface, trace) := listener.close m.surface
  { m with surface }.record trace

def launch (m : Machine) (loaded : Except Settings.LoadError Settings) :
    Except LaunchError Running × Machine :=
  match (m.record [processNote "starting daemon runtime"]).bootstrap loaded with
  | (.error cause, m) => (.error (.bootstrap cause), m)
  | (.ok daemon, m) =>
    match m.listen daemon.settings.daemonSocket with
    | (.error cause, m) => (.error (.listener cause), m)
    | (.ok listener, m) =>
      let m := (m.report (.listenerReady listener.endpoint)).record
        [Reactor.runningNote listener.endpoint.render]
      (.ok { machine := m, listener, service := { reactor := daemon.reactor } }, m)

end Machine

namespace Running

def turn (r : Running) : Bool × Running :=
  let (busy, trace, service) := r.service.turn
  (busy, { r with service, machine := r.machine.record trace })

/-- The end: the daemon was told to stop, by a signal of the system or otherwise. -/
def stop (r : Running) (bySignal : Bool) : Running :=
  let told := if bySignal then [Machine.processNote "shutdown signal received"] else []
  let m := r.machine.record (told ++ [r.service.reactor.stoppingNote])
  let m := (m.hush r.listener).report .reactorStopped
  { r with
    service := r.service.hangUp
    machine := m.record [Machine.processNote "shutdown sequence completed"] }

end Running

end RouteServer
