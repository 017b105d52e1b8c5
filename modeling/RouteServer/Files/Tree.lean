import RouteServer.Files.Path
import RouteServer.Keyed
import RouteServer.SystemError
import RouteServer.Text.Utf8

/-! # A tree of files

Directories, files, symbolic links and sockets by their places. A path is followed segment by segment
from the root or from the current directory; links on the way are followed, up to a limit.
-/

namespace RouteServer.Files

/-- What stands behind a socket: nobody, a listener, or a receiver of single messages. -/
inductive SocketState where
  | stale
  | listening
  | datagram
deriving DecidableEq, Repr

inductive Entry where
  | directory (mode : Nat)
  | file (content : List UInt8)
  | link (target : String)
  | socket (state : SocketState)
deriving DecidableEq, Repr

/-- The names that lead from the root to an entry. -/
abbrev Place := List String

/-- All entries by place, and the current directory. The root is always there. -/
structure Tree where
  entries : Keyed Place Entry := {}
  current : Place := []

namespace Tree

/-! ## Following paths -/

def entry? (t : Tree) (place : Place) : Option Entry :=
  if place = [] then some (.directory 0o755) else t.entries.get? place

structure Target where
  place : Place
  entry : Option Entry
deriving DecidableEq, Repr

def maxNameBytes : Nat := 255

def maxPathBytes : Nat := 4096

def maxLinks : Nat := 40

/-- Where the segments lead from the directory `here`. A link at the end is followed only if `last`. -/
def walk (t : Tree) (last : Bool) (links : Nat) (here : Place) (segments : List String) :
    Except SystemError Target :=
  match segments with
  | [] => .ok ⟨here, t.entry? here⟩
  | "." :: rest => walk t last links here rest
  | ".." :: rest => walk t last links here.dropLast rest
  | name :: rest =>
    let there := here ++ [name]
    if maxNameBytes < name.utf8ByteSize then .error .nameTooLong
    else match t.entry? there with
      | none => if rest = [] then .ok ⟨there, none⟩ else .error .notFound
      | some (.directory _) => walk t last links there rest
      | some (.link target) =>
        if rest = [] ∧ !last then .ok ⟨there, some (.link target)⟩
        else match links with
          | 0 => .error .tooManyLinks
          | links + 1 =>
            walk t last links (if Path.isAbsolute target then [] else here)
              (Path.segments target ++ rest)
      | some entry => if rest = [] then .ok ⟨there, some entry⟩ else .error .notADirectory
termination_by (links, segments.length)

def follow (t : Tree) (last : Bool) (path : String) (segments : List String) :
    Except SystemError Target :=
  if '\x00' ∈ path.toList then .error .fileNameWithNul
  else if path = "" then .error .notFound
  else if maxPathBytes ≤ path.utf8ByteSize then .error .nameTooLong
  else t.walk last maxLinks (if Path.isAbsolute path then [] else t.current) segments

def resolve (t : Tree) (last : Bool) (path : String) : Except SystemError Target :=
  t.follow last path (Path.segments path)

/-- The place of a new entry. Its path names it in an existing directory, and only that of a directory
may end with a slash. -/
def vacancy (t : Tree) (forDirectory : Bool) (path : String) : Except SystemError Place := do
  let (above, name) := Path.split path
  let parent ← t.follow true path (above ++ ["."])
  let place := parent.place ++ [name]
  if name ∈ ["", ".", ".."] then throw .fileExists
  if maxNameBytes < name.utf8ByteSize then throw .nameTooLong
  if (t.entry? place).isSome then throw .fileExists
  if Path.endsWithSlash path ∧ !forDirectory then throw .notFound
  return place

/-! ## Looking -/

def find (t : Tree) (last : Bool) (path : String) : Except SystemError (Place × Entry) := do
  let target ← t.resolve last path
  match target.entry with
  | none => throw .notFound
  | some entry => return (target.place, entry)

def isDirectory (t : Tree) (path : String) : Bool :=
  match t.find true path with
  | .ok (_, .directory _) => true
  | _ => false

def isFile (t : Tree) (path : String) : Bool :=
  match t.find true path with
  | .ok (_, .file _) => true
  | _ => false

def hasPath (t : Tree) (path : String) : Bool := (t.find true path).isOk

def read (t : Tree) (path : String) : Except SystemError (List UInt8) := do
  match ← t.find true path with
  | (_, .file content) => return content
  | (_, .directory _) => throw .isADirectory
  | _ => throw .noDeviceOrAddress

def readText (t : Tree) (path : String) : Except SystemError String := do
  match Utf8.decode? (← t.read path) with
  | some text => return text
  | none => throw .invalidUtf8

def renderPlace (place : Place) : String :=
  if place = [] then "/" else String.join (place.map ("/" ++ ·))

/-- The path without links that leads to the same entry. -/
def canonical (t : Tree) (path : String) : Except SystemError String := do
  let (place, _) ← t.find true path
  return renderPlace place

/-! ## Changing -/

def put (t : Tree) (place : Place) (entry : Entry) : Tree :=
  { t with entries := t.entries.insert place entry }

def makeDirectory (t : Tree) (mode : Nat) (path : String) : Except SystemError Tree := do
  return t.put (← t.vacancy true path) (.directory mode)

/-- Makes the first of the directories `paths`, of which each is the parent of the one before. -/
def makeWithParents (t : Tree) (mode : Nat) : List String → Except SystemError Unit × Tree
  | [] => (.ok (), t)
  | path :: parents =>
    if path = "" then (.ok (), t)
    else match t.makeDirectory mode path with
      | .ok t => (.ok (), t)
      | .error .notFound =>
        match makeWithParents t mode parents with
        | (.error e, t) => (.error e, t)
        | (.ok (), t) =>
          match t.makeDirectory mode path with
          | .ok t => (.ok (), t)
          | .error e => (if t.isDirectory path then .ok () else .error e, t)
      | .error e => (if t.isDirectory path then .ok () else .error e, t)

/-- Makes a directory and those above it, as far as they are missing. -/
def makeDirectories (t : Tree) (mode : Nat) (path : String) : Except SystemError Unit × Tree :=
  t.makeWithParents mode (Path.ancestors path)

def remove (t : Tree) (path : String) : Except SystemError Tree := do
  match ← t.find false path with
  | (_, .directory _) => throw .isADirectory
  | (place, _) => return { t with entries := t.entries.erase place }

/-! ## Sockets -/

/-- The bytes that the name of a socket may have, with a mark of its end. -/
def maxSocketBytes : Nat := 108

/-- Makes a socket to listen on. The empty path is a socket without a name. -/
def bindSocket (t : Tree) (path : String) : Except SystemError Tree :=
  if '\x00' ∈ path.toList then .error .socketPathWithNul
  else if maxSocketBytes ≤ path.utf8ByteSize then .error .socketPathTooLong
  else if path = "" then .ok t
  else match t.vacancy false path with
    | .ok place => .ok (t.put place (.socket .listening))
    | .error .fileExists => .error .addressInUse
    | .error cause => .error cause

/-- What a client finds that connects to a socket. -/
def connectSocket (t : Tree) (path : String) : Except SystemError Unit := do
  if '\x00' ∈ path.toList then throw .socketPathWithNul
  if maxSocketBytes ≤ path.utf8ByteSize then throw .socketPathTooLong
  match ← t.find true path with
  | (_, .socket .listening) => return ()
  | (_, .socket .datagram) => throw .wrongProtocol
  | _ => throw .connectionRefused

end Tree

end RouteServer.Files
