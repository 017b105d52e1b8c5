import RouteServer.Command.Selector

/-! # Why a command fails -/

namespace RouteServer.Command

inductive CommandError where
  | missingCode
  | invalidCode (code : String)
  | invalidDescription (description : String) (cause : SelectorError)
  | render (message : String)
deriving DecidableEq, Repr

def CommandError.message : CommandError → String
  | missingCode => "expected a neighbor description followed by a notification code"
  | invalidCode code => "invalid notification code '" ++ code ++ "'"
  | invalidDescription description cause =>
    "invalid neighbor description '" ++ description ++ "': " ++ cause.message
  | render message => "failed to render output: " ++ message

/-- What the registry promises of a handler. -/
inductive Contract where
  | immediateAnswer
  | scheduledOutput
deriving DecidableEq, Repr

def Contract.render : Contract → String
  | immediateAnswer => "an immediate answer"
  | scheduledOutput => "a scheduled output sequence"

inductive DispatchError where
  | duplicateVerb (verb : String)
  | unknownCommand (line : String)
  | brokenContract (verb : String) (expected : Contract)
  | failed (verb : String) (cause : CommandError)
deriving DecidableEq, Repr

def DispatchError.message : DispatchError → String
  | duplicateVerb verb => "command '" ++ verb ++ "' is already registered"
  | unknownCommand line => "unknown command '" ++ line ++ "'"
  | brokenContract verb expected =>
    "handler for '" ++ verb ++ "' broke its contract: expected " ++ expected.render
  | failed verb cause => "'" ++ verb ++ "' failed: " ++ cause.message

end RouteServer.Command
