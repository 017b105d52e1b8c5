import RouteServer.Address.Parser
import RouteServer.Address.Printer
import RouteServer.Text.Blank
import RouteServer.Text.Decimal

/-! # Selectors of neighbors

A description picks neighbors by their names. It is `*` or a peer address behind an optional `neighbor`,
followed by any number of qualifiers, each a key and a value; several descriptions are joined by commas.
A selector matches a name if each of its phrases stands there as two neighboring words.
-/

namespace RouteServer.Command

/-! ## Qualifiers -/

inductive QualifierKey where
  | localIp
  | localAs
  | peerAs
  | routerId
  | familyAllowed
deriving DecidableEq, Repr

namespace QualifierKey

def all : List QualifierKey := [localIp, localAs, peerAs, routerId, familyAllowed]

def render : QualifierKey → String
  | localIp => "local-ip"
  | localAs => "local-as"
  | peerAs => "peer-as"
  | routerId => "router-id"
  | familyAllowed => "family-allowed"

def ofWord? (word : String) : Option QualifierKey := all.find? fun k => k.render = word

end QualifierKey

/-- A condition on a neighbor beside its address. -/
inductive Qualifier where
  | localIp (address : Address)
  | localAs (asNumber : UInt32)
  | peerAs (asNumber : UInt32)
  | routerId (id : IPv4)
  | familyAllowed (families : String)
deriving DecidableEq, Repr

namespace Qualifier

def key : Qualifier → QualifierKey
  | localIp _ => .localIp
  | localAs _ => .localAs
  | peerAs _ => .peerAs
  | routerId _ => .routerId
  | familyAllowed _ => .familyAllowed

def value : Qualifier → String
  | localIp address => address.render
  | localAs n => toString n.toNat
  | peerAs n => toString n.toNat
  | routerId id => id.render
  | familyAllowed families => families

def read? (text : String) : QualifierKey → Option Qualifier
  | .localIp => (Address.parse? text).map localIp
  | .localAs => (Decimal.readUInt32? text).map localAs
  | .peerAs => (Decimal.readUInt32? text).map peerAs
  | .routerId => (IPv4.parse? text).map routerId
  | .familyAllowed => some (familyAllowed text)

end Qualifier

/-! ## Selectors -/

/-- A choice of neighbors: all of them, or those with a peer address and some properties. -/
inductive Selector where
  | any
  | peer (address : Address) (qualifiers : List Qualifier)
deriving DecidableEq, Repr

inductive SelectorError where
  | empty
  | invalidAddress (token : String)
  | unknownKey (token : String)
  | missingValue (key : QualifierKey)
  | invalidValue (key : QualifierKey) (value : String)
deriving DecidableEq, Repr

def SelectorError.message : SelectorError → String
  | empty => "empty neighbor selector"
  | invalidAddress token => "'" ++ token ++ "' is not an IP address"
  | unknownKey token => "unknown neighbor qualifier '" ++ token ++ "'"
  | missingValue key => "missing value for '" ++ key.render ++ "'"
  | invalidValue key value => "invalid value '" ++ value ++ "' for '" ++ key.render ++ "'"

namespace Selector

/-- The phrases that a name has to hold. -/
def phrases : Selector → List (String × String)
  | any => []
  | peer address qualifiers =>
    ("neighbor", address.render) :: qualifiers.map fun q => (q.key.render, q.value)

def render : Selector → String
  | any => "*"
  | s => Text.unwords (s.phrases.flatMap fun (key, value) => [key, value])

def neighboring (ws : List String) : List (String × String) := ws.zip (ws.drop 1)

def matchesName (s : Selector) (name : String) : Bool :=
  let pairs := neighboring (Text.words name)
  s.phrases.all fun phrase => phrase ∈ pairs

/-! ## Reading descriptions -/

def readQualifiers : List String → Except SelectorError (List Qualifier)
  | [] => .ok []
  | token :: rest =>
    match QualifierKey.ofWord? token with
    | none => .error (.unknownKey token)
    | some key =>
      match rest with
      | [] => .error (.missingValue key)
      | value :: rest =>
        match Qualifier.read? value key with
        | none => .error (.invalidValue key value)
        | some q => do return q :: (← readQualifiers rest)

/-- Reads a selector that begins with the address of a peer. -/
def readPeer : List String → Except SelectorError Selector
  | [] => .error .empty
  | token :: rest =>
    match Address.parse? token with
    | none => .error (.invalidAddress token)
    | some address => do return peer address (← readQualifiers rest)

def ofWords : List String → Except SelectorError Selector
  | ["*"] => .ok any
  | "*" :: extra :: _ => .error (.unknownKey extra)
  | "neighbor" :: rest => readPeer rest
  | ws => readPeer ws

/-- Reads a description, the selectors of which stand between commas. -/
def parseAll (description : String) : Except SelectorError (List Selector) :=
  (Text.splitOnChar ',' description).mapM fun piece => ofWords (Text.words piece)

end Selector

end RouteServer.Command
