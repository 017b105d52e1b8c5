import RouteServer.Endpoint.Basic
import RouteServer.Files.Path
import RouteServer.Log.Format
import RouteServer.Settings.Environment

/-! # Settings of the daemon

Where it listens, what it logs and how, which file names its neighbors, and how long it rests after a
turn in which nothing was to be done.
-/

namespace RouteServer

structure Settings where
  daemonSocket : Endpoint
  logFilter : String
  logFormat : Log.Format
  neighborFile : Option String
  reactorIdle : UInt64
deriving DecidableEq, Repr

namespace Settings

/-! ## Defaults -/

/-- The port of a control channel where no Unix sockets are to be had. -/
def controlPort : UInt16 := 9179

def defaultLogFilter : String := "info"

def defaultLogFormat : Log.Format := .json

/-- Milliseconds. -/
def defaultReactorIdle : UInt64 := 10

/-- The directory for the files of a running daemon: that of the session, or one of the user's own
below the directory for temporary files. -/
def runtimeDirectory (e : Environment) : String :=
  match (e.get? "XDG_RUNTIME_DIR").filter Path.isAbsolute with
  | some directory => directory
  | none => Path.join ((e.get? "TMPDIR").getD "/tmp") ("bgpd-uid-" ++ toString e.user)

def defaultEndpoint (e : Environment) : Endpoint :=
  .unix (Path.join (Path.join (runtimeDirectory e) "bgpd") "bgpd.sock")

def defaults (e : Environment) : Settings := {
  daemonSocket := defaultEndpoint e
  logFilter := defaultLogFilter
  logFormat := defaultLogFormat
  neighborFile := none
  reactorIdle := defaultReactorIdle }

/-! ## As values -/

def toValue (s : Settings) : Json.Value :=
  .object ([
    ("daemon_socket", .string s.daemonSocket.render),
    ("log_filter", .string s.logFilter),
    ("log_format", .string s.logFormat.render)] ++
    s.neighborFile.toList.map (fun path => ("neighbor_file", .string path)) ++
    [("reactor_idle_ms", .integer s.reactorIdle.toNat)])

/-- Reads a member, or keeps what is set. -/
def readMember (v : Json.Value) (name : String) (read : Json.Value → Except Json.DecodeError α)
    (kept : α) : Except Json.DecodeError α :=
  match v.member? name with
  | none => .ok kept
  | some member => read member

def withValue (s : Settings) (v : Json.Value) : Except Json.DecodeError Settings := do
  return {
    daemonSocket := ← readMember v "daemon_socket" Endpoint.ofValue s.daemonSocket
    logFilter := ← readMember v "log_filter" Json.Value.asText s.logFilter
    logFormat := ← readMember v "log_format"
      (·.asChoice (Log.Format.all.map fun f => (f.render, f))) s.logFormat
    neighborFile := ← readMember v "neighbor_file" (·.asOption Json.Value.asPath) s.neighborFile
    reactorIdle := ← readMember v "reactor_idle_ms" Json.Value.asNatural s.reactorIdle }

end Settings

end RouteServer
