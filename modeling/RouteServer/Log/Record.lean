/-! # Log records

What the daemon reports about its work: a level, the part of the daemon that speaks, a sentence and
named values.
-/

namespace RouteServer.Log

inductive Level where
  | error
  | warn
  | info
  | debug
  | trace
deriving DecidableEq, Repr

namespace Level

def all : List Level := [error, warn, info, debug, trace]

def render : Level → String
  | error => "ERROR"
  | warn => "WARN"
  | info => "INFO"
  | debug => "DEBUG"
  | trace => "TRACE"

/-- How much a reader sees who asks for this level: one for errors alone, five for everything. -/
def verbosity : Level → Nat
  | error => 1
  | warn => 2
  | info => 3
  | debug => 4
  | trace => 5

end Level

/-- The value of a field. A `shown` text is one that the value is displayed as; a `text` is a string
of its own, which compact output puts in quotes. -/
inductive FieldValue where
  | shown (text : String)
  | text (text : String)
  | number (n : Nat)
deriving DecidableEq, Repr

/-- One report. A field without a value is named but not written. -/
structure Record where
  level : Level
  target : String
  message : String
  fields : List (String × Option FieldValue) := []
deriving DecidableEq, Repr

namespace Record

def values (r : Record) : List (String × FieldValue) :=
  r.fields.filterMap fun (name, value) => value.map (name, ·)

end Record

/-! ## Writing fields -/

def shown (name text : String) : String × Option FieldValue := (name, some (.shown text))

def text (name value : String) : String × Option FieldValue := (name, some (.text value))

def number (name : String) (n : Nat) : String × Option FieldValue := (name, some (.number n))

/-! ## Targets -/

def part (name : String) : String := "bgpd::" ++ name

end RouteServer.Log
