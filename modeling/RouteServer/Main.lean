import RouteServer.Daemon.Run

/-! # The program

The daemon takes its settings from the files, the environment and the command line of its process. It
serves one client, on standard input and output: each line that comes is a command, and what is answered
is printed. The log goes to standard error.
-/

namespace RouteServer.Program

/-! ## The process -/

/-- The variables that settings, and the places of their files, come from. -/
def variableNames : List String :=
  ["HOME", "TMPDIR", "XDG_CONFIG_DIRS", "XDG_CONFIG_HOME", "XDG_RUNTIME_DIR", "BGPD_CONFIG_PATH",
   "BGPD_DAEMON_SOCKET", "BGPD_LOG_FILTER", "BGPD_LOG_FORMAT", "BGPD_NEIGHBOR_FILE",
   "BGPD_REACTOR_IDLE_MS"]

/-- The number of the user in what the system says about a process. -/
def userIn (status : String) : Nat :=
  let user? (line : String) : Option Nat :=
    match Text.words line with
    | "Uid:" :: _ :: effective :: _ => effective.toNat?
    | _ => none
  ((Text.lines status).findSome? user?).getD 0

def readEnvironment : IO Environment := do
  let known ← variableNames.filterMapM fun name => do
    return (← IO.getEnv name).map (name, ·)
  let status ← try IO.FS.readFile "/proc/self/status" catch _ => pure ""
  return { values := .ofList known, user := userIn status }

/-! ## Files -/

/-- The tree with a file at a path, below directories that are made as far as they are missing. -/
def attach (t : Files.Tree) (path : String) (content : List UInt8) : Files.Tree :=
  let t := (t.makeDirectories 0o755 ((Path.parent? path).getD "")).2
  match t.resolve true path with
  | .ok target => t.put target.place (.file content)
  | .error _ => t

def fetch (t : Files.Tree) (path : String) : IO Files.Tree := do
  try
    return attach t path (← IO.FS.readBinFile path).toList
  catch _ => return t

def fetchCandidates (e : Environment) (args : List String) (t : Files.Tree) : IO Files.Tree := do
  let configPath := (Settings.Arguments.parse args).toOption.bind (·.configPath)
  (Settings.candidates e (Files.Tree.renderPlace t.current) configPath).foldlM (fun t c => fetch t c.path) t

def fetchNeighbors (loaded : Except Settings.LoadError Settings) (t : Files.Tree) : IO Files.Tree :=
  match loaded.toOption.bind (·.neighborFile) with
  | none => return t
  | some path => fetch t path

/-! ## Serving -/

/-- Writes what is to be seen of the journal, and begins a new one. -/
def writeLog (m : Machine) : IO Machine := do
  for (format, r) in m.seen true do
    IO.eprintln (r.line format)
  return { m with journal := [] }

def settle (r : Running) (service : Service) : IO Running := do
  let (_, trace, loopback) := r.service.settle 1000000
  let (received, loopback) := loopback.receive service
  for line in (received.map (·.lines)).getD [] do
    IO.println line
  return { r with service := loopback, machine := ← writeLog (r.machine.record trace) }

/-- Serves the client until its input ends. -/
partial def serve (input : IO.FS.Stream) (r : Running) (service : Service) : IO Running := do
  let line ← input.getLine
  if line.isEmpty then
    settle { r with service := (r.service.shutdown service).2 } service
  else
    let loopback := (r.service.send service (Utf8.encode line)).2
    serve input (← settle { r with service := loopback } service) service

end RouteServer.Program

open RouteServer Program in
def main (args : List String) : IO UInt32 := do
  let environment ← readEnvironment
  let current := Path.segments ((← IO.getEnv "PWD").getD "/")
  let files ← fetchCandidates environment args { current }
  let loaded := Settings.load files environment args
  let files ← fetchNeighbors loaded files
  match ({ surface := { files } } : Machine).launch loaded with
  | (.error cause, m) =>
    let _ ← writeLog m
    IO.eprint cause.complaint
    return 1
  | (.ok running, _) =>
    let running := { running with machine := ← writeLog running.machine }
    let (service, loopback) := running.service.connect
    let running ← serve (← IO.getStdin) { running with service := loopback } service
    let _ ← writeLog (running.stop true).machine
    return 0
