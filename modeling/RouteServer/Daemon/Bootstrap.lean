import RouteServer.Command.Standard
import RouteServer.Daemon.Machine
import RouteServer.Reactor
import RouteServer.Session.Table

/-! # Starting up

The daemon sets its log output up, makes the directory of its socket, reads its neighbors and registers
its commands, in this order. The first step that fails ends it.
-/

namespace RouteServer

/-- What a daemon works with once it is started. -/
structure Daemon where
  settings : Settings
  configuration : Configuration
  registry : Command.Registry Session.Table Command.Listing

namespace Machine

def prepareSocket (m : Machine) (e : Endpoint) : Except DirectoryError Unit × Machine :=
  let (result, files) := e.prepare m.surface.files
  (result, { m with surface := { m.surface with files } })

def loadNeighbors (m : Machine) (s : Settings) : Except Config.FileError Configuration :=
  match s.neighborFile with
  | none => .ok (.ofNeighbors [])
  | some path => Configuration.load m.surface.files path

def bootstrapSteps (m : Machine) (loaded : Except Settings.LoadError Settings) :
    Except BootstrapError Daemon × Machine :=
  match loaded with
  | .error cause => (.error (.configuration cause), m)
  | .ok settings =>
    match m.installOutput settings with
    | .error cause => (.error (.telemetry cause), m)
    | .ok m =>
      match m.prepareSocket settings.daemonSocket with
      | (.error cause, m) => (.error (.socket cause), m)
      | (.ok (), m) =>
        match m.loadNeighbors settings with
        | .error cause => (.error (.neighbors cause), m)
        | .ok configuration =>
          let m := m.report (.neighborsLoaded configuration.neighbors.length)
          match Command.Registry.standard (P := Session.Table) with
          | .error cause => (.error (.commands cause), m)
          | .ok registry => (.ok { settings, configuration, registry }, m)

def bootstrap (m : Machine) (loaded : Except Settings.LoadError Settings) :
    Except BootstrapError Daemon × Machine :=
  match (m.report .bootstrapStarting).bootstrapSteps loaded with
  | (.ok daemon, m) => (.ok daemon, m.report (.bootstrapSucceeded daemon.settings))
  | (.error cause, m) => (.error cause, m.report (.bootstrapFailed cause))

end Machine

/-- The reactor of a daemon, with an idle session for each of its neighbors. -/
def Daemon.reactor (d : Daemon) : Reactor Session.Table Command.Listing := {
  registry := d.registry
  sessions := Session.Table.ofConfiguration d.configuration
  configuration := d.configuration }

end RouteServer
