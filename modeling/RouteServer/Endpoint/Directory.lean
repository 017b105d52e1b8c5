import RouteServer.Endpoint.Basic
import RouteServer.Files.Tree

/-! # The directory of a Unix socket

A Unix socket needs a directory to stand in. It is made so that only the user of the daemon can enter it.
-/

namespace RouteServer

inductive DirectoryError where
  | missingParent (path : String)
  | createDirectory (directory : String) (cause : SystemError)
deriving DecidableEq, Repr

def DirectoryError.message : DirectoryError → String
  | missingParent path => "socket path '" ++ path ++ "' has no parent directory"
  | createDirectory directory cause =>
    "failed to create socket directory '" ++ directory ++ "': " ++ cause.message

namespace Endpoint

def directoryMode : Nat := 0o700

/-- Makes the directory of a Unix socket, as far as it is missing. It is no fault if something else
stands in its place; that comes out when the socket is made. -/
def prepare (e : Endpoint) (t : Files.Tree) : Except DirectoryError Unit × Files.Tree :=
  match e.unixPath? with
  | none => (.ok (), t)
  | some path =>
    match (Path.parent? path).filter (· ≠ "") with
    | none => (.error (.missingParent path), t)
    | some directory =>
      match t.makeDirectories directoryMode directory with
      | (.error .fileExists, t) => (.ok (), t)
      | (.error cause, t) => (.error (.createDirectory directory cause), t)
      | (.ok (), t) => (.ok (), t)

end Endpoint

end RouteServer
