import RouteServer.Command.Error
import RouteServer.Command.Service
import RouteServer.Config.Parser
import RouteServer.Log.Record

/-! # The registry of commands

A command is registered under a verb of one or more words. A command line is resolved to the verb with
the most words that it begins with; spacing does not matter, neither between the words of a verb nor on
the line.
-/

namespace RouteServer.Command

/-! ## Handlers -/

inductive CommandKind where
  | text
  | binary
deriving DecidableEq, Repr

/-- What a handler gives: the whole response, or output to be scheduled. -/
inductive Outcome (σ : Type) where
  | answered (lines : List String)
  | scheduled (sequence : σ)

structure Reply (P σ : Type) where
  sessions : P
  notes : List Log.Record := []
  outcome : Except CommandError (Outcome σ)

abbrev Handler (P σ : Type) := Invocation → P → Configuration → Reply P σ

/-! ## Descriptors -/

/-- A registered command. Its modifiers stand in order of precedence. -/
structure Descriptor (P σ : Type) where
  verb : String
  kind : CommandKind := .text
  isAsync : Bool := false
  modifiers : List String := []
  handler : Handler P σ

namespace Descriptor

variable {P σ : Type}

def words (d : Descriptor P σ) : List String := Text.words d.verb

/-- Whether a line with these words is a line of the command. A verb without words has no lines. -/
def begins (d : Descriptor P σ) (tokens : List String) : Bool :=
  d.words ≠ [] && d.words.isPrefixOf tokens

def invocation (d : Descriptor P σ) (service : Service) (line : String) : Invocation :=
  let rest := (Text.words line).drop d.words.length
  { service, line, verb := d.verb
    arguments := Text.unwords rest
    mode := d.modifiers.find? (· ∈ rest)
    filter := ((rest.filter (· ∉ d.modifiers)).getLast?).filter fun word =>
      some word ≠ d.words.getLast? }

end Descriptor

/-! ## Registry -/

structure Registry (P σ : Type) where
  commands : List (Descriptor P σ) := []

namespace Registry

variable {P σ : Type}

def size (r : Registry P σ) : Nat := r.commands.length

def isEmpty (r : Registry P σ) : Bool := r.commands.isEmpty

/-! ### Registering

A call adds a command to the registry or is refused. What a call has added before it is refused would stay. -/

/-- Calls on a registry. -/
abbrev Registering (P σ : Type) := ExceptT DispatchError (StateM (Registry P σ))

/-- Adds a command, unless its verb is taken. -/
def add (d : Descriptor P σ) : Registering P σ Unit := do
  if (← get).commands.any fun other => other.words = d.words then throw (.duplicateVerb d.verb)
  modify fun r => { commands := r.commands ++ [d] }

/-- The registry with one more command, unless the call that adds it is refused. -/
def register (r : Registry P σ) (d : Descriptor P σ) : Except DispatchError (Registry P σ) :=
  match (add d).run.run r with
  | (.ok (), next) => .ok next
  | (.error e, _) => .error e

/-! ### Resolving -/

def longer (best : Option (Descriptor P σ)) (d : Descriptor P σ) : Option (Descriptor P σ) :=
  match best with
  | none => some d
  | some b => if b.words.length ≤ d.words.length then some d else some b

def resolve (r : Registry P σ) (tokens : List String) : Option (Descriptor P σ) :=
  (r.commands.filter (·.begins tokens)).foldl longer none

end Registry

end RouteServer.Command
