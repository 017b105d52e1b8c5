/-! # Failures of the operating system

Calls on files and sockets fail for a numbered reason, or because their argument cannot be handed to the
system at all.
-/

namespace RouteServer

inductive SystemError where
  | notFound
  | noDeviceOrAddress
  | permissionDenied
  | fileExists
  | notADirectory
  | isADirectory
  | invalidArgument
  | brokenPipe
  | nameTooLong
  | tooManyLinks
  | wrongProtocol
  | addressInUse
  | addressNotAvailable
  | connectionReset
  | connectionRefused
  | writeZero
  | invalidUtf8
  | fileNameWithNul
  | socketPathWithNul
  | socketPathTooLong
  | unknownHost
deriving DecidableEq, Repr

namespace SystemError

def reason? : SystemError → Option (Nat × String)
  | notFound => some (2, "No such file or directory")
  | noDeviceOrAddress => some (6, "No such device or address")
  | permissionDenied => some (13, "Permission denied")
  | fileExists => some (17, "File exists")
  | notADirectory => some (20, "Not a directory")
  | isADirectory => some (21, "Is a directory")
  | invalidArgument => some (22, "Invalid argument")
  | brokenPipe => some (32, "Broken pipe")
  | nameTooLong => some (36, "File name too long")
  | tooManyLinks => some (40, "Too many levels of symbolic links")
  | wrongProtocol => some (91, "Protocol wrong type for socket")
  | addressInUse => some (98, "Address already in use")
  | addressNotAvailable => some (99, "Cannot assign requested address")
  | connectionReset => some (104, "Connection reset by peer")
  | connectionRefused => some (111, "Connection refused")
  | _ => none

def message (e : SystemError) : String :=
  match e.reason? with
  | some (number, text) => text ++ " (os error " ++ toString number ++ ")"
  | none =>
    match e with
    | writeZero => "write zero"
    | invalidUtf8 => "stream did not contain valid UTF-8"
    | fileNameWithNul => "file name contained an unexpected NUL byte"
    | socketPathWithNul => "paths must not contain interior null bytes"
    | unknownHost => "failed to lookup address information: Name or service not known"
    | _ => "path must be shorter than SUN_LEN"

end SystemError

end RouteServer
