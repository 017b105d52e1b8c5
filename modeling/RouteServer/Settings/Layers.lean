import RouteServer.Json.Printer
import RouteServer.Settings.Arguments
import RouteServer.Settings.Candidates
import RouteServer.Settings.Source

/-! # Layers of settings

Settings come from four places: defaults, a configuration file, the environment and the command line. A
later place hides what an earlier one says. Of the files that may hold settings the first that can be
read is taken. A place that cannot be read is left out, so that the faults of all places come to light
together.
-/

namespace RouteServer.Settings

open Files

/-! ## Faults -/

inductive LoadFault where
  | arguments (cause : ArgumentError)
  | source (cause : SourceError)
  | merge (cause : Json.DecodeError)

def LoadFault.message : LoadFault → String
  | arguments cause => "Failed to parse command-line arguments: " ++ cause.message
  | source cause => cause.message
  | merge cause => "Failed to merge CLI with configuration: " ++ cause.message

def renderFaults (n : Nat) : List LoadFault → String
  | [] => ""
  | f :: rest => "\n" ++ toString n ++ ": " ++ f.message ++ renderFaults (n + 1) rest

/-- Why settings cannot be loaded: all faults that were found, in the order of the places. -/
structure LoadError where
  faults : List LoadFault

def LoadError.message (e : LoadError) : String :=
  match e.faults with
  | [fault] => fault.message
  | faults => "multiple configuration errors:" ++ renderFaults 1 faults

/-! ## Files -/

/-- The settings in the first candidate that can be read, with the faults of those before it: first of
files that were asked for, then of the others. -/
def firstSource (t : Tree) :
    List Candidate → Option Json.Value × List SourceError × List SourceError
  | [] => (none, [], [])
  | c :: rest =>
    let add (e : SourceError) : Option Json.Value × List SourceError × List SourceError :=
      let (v, required, optional) := firstSource t rest
      if c.isRequired then (v, e :: required, optional) else (v, required, e :: optional)
    match readSource t c.path with
    | .ok (some v) => (some v, [], [])
    | .ok none => if c.isRequired then add (.file c.path .requiredMissing) else firstSource t rest
    | .error e => add e

/-- The file layer, and its faults. A fault of a file that was not asked for counts only if no file could
be read. -/
def fileLayer (t : Tree) (e : Environment) (configPath : Option String) :
    Json.Value × List SourceError :=
  match firstSource t (candidates e (Tree.renderPlace t.current) configPath) with
  | (some v, required, _) => (v, required)
  | (none, required, optional) => (.object [], required ++ optional)

/-! ## Environment -/

/-- The settings of all variables as one object. A variable replaces all that an earlier one says of the
same setting. -/
def environmentLayer (e : Environment) : Json.Value :=
  .object (e.values.toList.foldl (fun layer (name, text) =>
    match Environment.settingName? name with
    | some (first :: inner) =>
      Json.setMember first (Environment.nest inner (Environment.valueOf text)) layer
    | _ => layer) [])

/-! ## Command line -/

/-- The settings of the command line as an object. A command line that sets everything to its default
counts as an empty one. -/
def argumentLayer (e : Environment) (a : Arguments) : Json.Value :=
  if a.configPath = none ∧ a.toValue.render = (defaults e).toValue.render then .object []
  else a.toValue

/-! ## All layers -/

def load (t : Tree) (e : Environment) (args : List String) : Except LoadError Settings :=
  let parsed := Arguments.parse args
  let arguments := parsed.toOption.getD {}
  let (file, sourceErrors) := fileLayer t e arguments.configPath
  let faults : List LoadFault :=
    (match parsed with
      | .ok _ => []
      | .error cause => [.arguments cause]) ++ sourceErrors.map .source
  let layers := [(defaults e).toValue, file, environmentLayer e, argumentLayer e arguments]
  match (defaults e).withValue (layers.foldl Json.Value.overlay (.object [])) with
  | .error cause => .error ⟨faults ++ [.merge cause]⟩
  | .ok settings => if faults.isEmpty then .ok settings else .error ⟨faults⟩

end RouteServer.Settings
