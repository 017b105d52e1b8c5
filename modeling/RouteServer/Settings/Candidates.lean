import RouteServer.Files.Tree
import RouteServer.Settings.Environment

/-! # Where settings may stand

A configuration file is looked for in the places that the command line and the environment name, and then
in the directories where programs of this system and of others keep theirs.
-/

namespace RouteServer.Settings

/-- A file that may hold settings; one that was asked for has to be there. -/
structure Candidate where
  path : String
  isRequired : Bool
deriving DecidableEq, Repr

/-! ## Directories -/

def directoriesOf (text : String) : List String :=
  (Text.splitOnChar ':' text).filter (· ≠ "")

/-- The name of the file in a directory for the daemon alone. -/
def fileName : String := "bgpd/config.toml"

/-- The name of the file among those of other programs. -/
def hiddenFileName : String := ".bgpd.toml"

def filesIn (directory : String) : List String :=
  [fileName, hiddenFileName].map (Path.join directory)

def home? (e : Environment) : Option String := (e.get? "HOME").or (e.get? "USERPROFILE")

/-- The directories of the user and of all users, the nearest first. -/
def settingsDirectories (e : Environment) : List String :=
  (e.get? "XDG_CONFIG_HOME").toList ++
  directoriesOf ((e.get? "XDG_CONFIG_DIRS").getD "/etc/xdg") ++
  (["APPDATA", "LOCALAPPDATA"].filterMap e.get?) ++
  ((home? e).map (Path.join · ".config")).toList

/-! ## Candidates -/

/-- The files that are tried without being asked for, those of a process in the directory `here`. -/
def optionalPaths (e : Environment) (here : String) : List String :=
  ((e.get? "BGPD_CONFIG_PATH").toList ++ (settingsDirectories e).flatMap filesIn ++
    ((home? e).toList ++ [here]).map (Path.join · hiddenFileName)).filter (· ≠ "")

/-- The files in the order in which they are tried, each of them once. -/
def candidates (e : Environment) (here : String) (configPath : Option String) : List Candidate :=
  configPath.toList.map (⟨·, true⟩) ++
    (((optionalPaths e here).filter fun path => some path ≠ configPath).eraseDups.map (⟨·, false⟩))

end RouteServer.Settings
