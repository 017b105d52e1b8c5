import RouteServer.Command.Error
import RouteServer.Config.Parser
import RouteServer.Daemon.Listener
import RouteServer.Endpoint.Directory
import RouteServer.Log.Line
import RouteServer.Settings.Layers

/-! # Why the daemon does not start -/

namespace RouteServer

/-- The step at which the daemon fails before it listens. -/
inductive BootstrapError where
  | configuration (cause : Settings.LoadError)
  | telemetry (cause : Log.FilterError)
  | socket (cause : DirectoryError)
  | neighbors (cause : Config.FileError)
  | commands (cause : Command.DispatchError)

def BootstrapError.message : BootstrapError → String
  | configuration cause => "failed to load configuration: " ++ cause.message
  | telemetry cause => "failed to initialise telemetry: " ++ cause.message
  | socket cause => "failed to prepare daemon socket: " ++ cause.message
  | neighbors cause => "failed to load neighbor configuration: " ++ cause.message
  | commands cause => "failed to register commands: " ++ cause.message

inductive LaunchError where
  | bootstrap (cause : BootstrapError)
  | listener (cause : ListenerError)

def LaunchError.message : LaunchError → String
  | bootstrap cause => "daemon bootstrap failed: " ++ cause.message
  | listener cause => "control socket listener failed: " ++ cause.message

def LaunchError.complaint (e : LaunchError) : String := "bgpd: " ++ e.message ++ "\n"

end RouteServer
