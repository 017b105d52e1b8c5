/-! # Paths

A path is the text of its segments between slashes. Empty segments and the segment `.` lead nowhere,
except that a path may begin with `./`.
-/

namespace RouteServer.Path

/-! ## Segments -/

def names (path : String) : List String :=
  ((path.toList.splitOn '/').filter (· ≠ [])).map String.ofList

def endsWithSlash (path : String) : Bool := path.toList.getLast? = some '/'

/-- The segments of a path; a slash at the end adds the segment `.`, so that it has to be a directory. -/
def segments (path : String) : List String :=
  if endsWithSlash path ∧ names path ≠ [] then names path ++ ["."] else names path

def split (path : String) : List String × String :=
  ((names path).dropLast, (names path).getLastD "")

def isAbsolute (path : String) : Bool := path.toList.head? = some '/'

/-- The path that `path` means when it is read in the directory `base`. -/
def join (base path : String) : String :=
  if isAbsolute path then path
  else if base = "" ∨ base.toList.getLast? = some '/' then base ++ path
  else base ++ "/" ++ path

/-! ## Parents -/

/-- What stands before the segments: a slash, a single dot, or nothing. -/
def start (cs : List Char) : List Char :=
  match cs with
  | '/' :: _ => ['/']
  | ['.'] => ['.']
  | '.' :: '/' :: _ => ['.']
  | _ => []

/-- The pieces without those at the end that lead nowhere. -/
def trimPieces (pieces : List (List Char)) : List (List Char) :=
  (pieces.reverse.dropWhile fun p => p = [] ∨ p = ['.']).reverse

/-- The path without its last segment. The root and the empty path have no parent; that of a single
segment is the empty path. -/
def parent? (path : String) : Option String :=
  let cs := path.toList
  let front := start cs
  match trimPieces ((cs.drop front.length).splitOn '/') with
  | [] => if front = ['.'] then some "" else none
  | pieces => some (.ofList (front ++ ['/'].intercalate (trimPieces pieces.dropLast)))

/-- The path and the paths above it, from itself up. -/
def ancestors (path : String) : List String :=
  let rec above : Nat → String → List String
    | 0, _ => []
    | n + 1, path =>
      match parent? path with
      | none => []
      | some up => up :: above n up
  path :: above path.length path

/-- What follows the last dot of the last segment, in small letters. -/
def extension? (path : String) : Option String :=
  match (segments path).getLast? with
  | none => none
  | some name =>
    let pieces := name.toList.splitOn '.'
    if pieces.dropLast.flatten = [] then none
    else pieces.getLast?.map fun e => .ofList (e.map Char.toLower)

end RouteServer.Path
