/-! # Clients of the control channel, and what they ask for -/

namespace RouteServer

/-- A client by its number. Numbers are given out once, from one on. -/
structure Service where
  number : Nat
deriving DecidableEq, Repr

namespace Service

def render (s : Service) : String := "service-" ++ toString s.number

instance : Ord Service where
  compare := compareOn number

instance : Std.TransOrd Service := inferInstanceAs (Std.TransCmp (compareOn number))

end Service

/-- The line that ends the response to a command. -/
inductive Answer where
  | done
  | error
deriving DecidableEq, Repr

def Answer.render : Answer → String
  | done => "done"
  | error => "error"

/-- A line for a client: a line of a response, or the marker that ends it. -/
inductive Output where
  | line (text : String)
  | marker (answer : Answer)
deriving DecidableEq, Repr

def Output.render : Output → String
  | line text => text
  | marker answer => answer.render

/-- A command line that has been resolved to a verb. The arguments are the words behind the verb; the
mode is the modifier among them that counts, and the filter the last word that is no modifier. -/
structure Command.Invocation where
  service : Service
  line : String
  verb : String
  arguments : String
  mode : Option String
  filter : Option String
deriving DecidableEq, Repr

end RouteServer
