import RouteServer.Command.Listing
import RouteServer.Command.Registry
import RouteServer.Session.Snapshot

/-! # The commands of the daemon

`teardown DESCRIPTION CODE` asks for every established session of a matching neighbor to be torn down
with the notification code. Nothing happens unless the whole line can be read. The sessions and the
configuration are shown by `show neighbor [FILTER] [summary|extensive|configuration|json]`.
-/

namespace RouteServer.Command

/-! ## Tearing sessions down -/

namespace Teardown

open Session (Provider)

structure Request where
  selectors : List Selector
  code : UInt32
deriving DecidableEq, Repr

/-- Reads the description and the code behind the last space. -/
def Request.parse (arguments : String) : Except CommandError Request :=
  match Text.splitLastSpace arguments with
  | none => .error .missingCode
  | some (description, codeText) =>
    match Decimal.readCode? codeText with
    | none => .error (.invalidCode codeText)
    | some code =>
      match Selector.parseAll description with
      | .error cause => .error (.invalidDescription description cause)
      | .ok selectors => .ok { selectors, code }

def note (key : Session.Key) (code : UInt32) (selector : Selector) : Log.Record :=
  { level := .info, target := Log.part "dispatch"
    message := "teardown scheduled for " ++ selector.render
    fields := [Log.shown "peer" key.render, Log.number "code" code.toNat] }

variable {P : Type} [Provider P]

def Request.applyTo (r : Request) (sessions : P) (key : Session.Key) : P × List Log.Record :=
  match (Provider.view sessions).name key with
  | none => (sessions, [])
  | some name =>
    match r.selectors.find? (·.matchesName name) with
    | none => (sessions, [])
    | some selector =>
      let (sessions, notes) := Provider.teardown sessions key r.code
      (sessions, notes ++ [note key r.code selector])

/-- Tears down every picked session of those established at the start. -/
def Request.run (r : Request) (sessions : P) : P × List Log.Record :=
  (Provider.view sessions).established.foldl
    (fun (sessions, notes) key =>
      let (sessions, more) := r.applyTo sessions key
      (sessions, notes ++ more))
    (sessions, [])

def handler : Handler P σ := fun invocation sessions _ =>
  match Request.parse invocation.arguments with
  | .error cause => { sessions, outcome := .error cause }
  | .ok request =>
    let (sessions, notes) := request.run sessions
    { sessions, notes, outcome := .ok (.answered []) }

def descriptor : Descriptor P σ := { verb := "teardown", handler }

end Teardown

/-! ## Showing neighbors -/

namespace ShowNeighbor

def modifiers : List String := ["json", "summary", "extensive", "configuration"]

def usage : List String :=
  ["please specify summary, extensive or configuration",
    "you can filter by peer ip address adding it after the word neighbor"]

def listing (mode : Option String) (filter : Option String) : Listing :=
  match mode with
  | some "json" => .json false
  | some "summary" => .peers { view := .summary, filter }
  | some "extensive" => .peers { view := .extensive, filter }
  | some "configuration" => .configuration { filter }
  | _ => .ofLines usage

def handler : Handler P Listing := fun invocation sessions _ =>
  { sessions, outcome := .ok (.scheduled (listing invocation.mode invocation.filter)) }

def descriptor : Descriptor P Listing :=
  { verb := "show neighbor", isAsync := true, modifiers, handler }

end ShowNeighbor

/-! ## Registration -/

/-- The registry of the commands that every client can use. -/
def Registry.standard [Session.Provider P] : Except DispatchError (Registry P Listing) := do
  let registry ← ({} : Registry P Listing).register Teardown.descriptor
  registry.register ShowNeighbor.descriptor

end RouteServer.Command
