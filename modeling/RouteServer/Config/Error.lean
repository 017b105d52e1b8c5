import RouteServer.Config.Token
import RouteServer.Family

/-! # Why a configuration is refused

Every refusal names what was expected or what is wrong, and where.
-/

namespace RouteServer.Config

inductive Statement where
  | description
  | routerId
  | localAddress
  | localAs
  | peerAs
  | holdTime
  | family
deriving DecidableEq, Repr

namespace Statement

def all : List Statement := [description, routerId, localAddress, localAs, peerAs, holdTime, family]

def keyword : Statement → String
  | description => "description"
  | routerId => "router-id"
  | localAddress => "local-address"
  | localAs => "local-as"
  | peerAs => "peer-as"
  | holdTime => "hold-time"
  | family => "family"

def ofKeyword? (word : String) : Option Statement := all.find? fun s => s.keyword = word

end Statement

/-- What has a value of its own: a block's address or a statement. -/
inductive Field where
  | neighbor
  | statement (s : Statement)
deriving DecidableEq, Repr

def Field.render : Field → String
  | neighbor => "neighbor"
  | statement s => s.keyword

inductive Expected where
  | block
  | blockName
  | openBrace
  | familyStatement
  | safiOrList
  | safiOrListEnd
  | neighborAddress
  | neighborStatement
  | familyReference
  | value (s : Statement)
deriving DecidableEq, Repr

def Expected.render : Expected → String
  | block => "'family' or 'neighbor'"
  | blockName => "family block name"
  | openBrace => "'\x7b'"
  | familyStatement => "family statement or '\x7d'"
  | safiOrList => "SAFI or '['"
  | safiOrListEnd => "SAFI or ']'"
  | neighborAddress => "neighbor address"
  | neighborStatement => "neighbor statement or '\x7d'"
  | familyReference => "family block or name"
  | value .description => "description text"
  | value s => s.keyword

inductive Error where
  | unterminatedString (location : Location)
  | unexpectedToken (found : String) (expected : Expected) (location : Location)
  | unexpectedEnd (expected : Expected)
  | unknownAfi (token : String) (location : Location)
  | unknownSafi (token : String) (location : Location)
  | family (cause : Family.DeclarationError) (token : String) (location : Location)
  | invalidValue (field : Field) (value : String) (location : Location)
  | duplicateStatement (statement : Statement) (location : Location)
  | unknownFamilyBlock (name : String) (location : Location)
  | duplicateFamilyBlock (name : String) (location : Location)
  | duplicateNeighbor (address : String) (location : Location)
  | missingStatement (address : String) (statement : Statement) (location : Location)
deriving DecidableEq, Repr

namespace Error

def message : Error → String
  | unterminatedString l => l.render ++ ": unterminated string"
  | unexpectedToken found expected l =>
    l.render ++ ": unexpected '" ++ found ++ "', expected " ++ expected.render
  | unexpectedEnd expected => "unexpected end of configuration, expected " ++ expected.render
  | unknownAfi token l => l.render ++ ": unknown address family '" ++ token ++ "'"
  | unknownSafi token l => l.render ++ ": unknown subsequent address family '" ++ token ++ "'"
  | family cause token l => l.render ++ ": " ++ cause.message ++ " (at '" ++ token ++ "')"
  | invalidValue field value l =>
    l.render ++ ": invalid value '" ++ value ++ "' for " ++ field.render
  | duplicateStatement s l => l.render ++ ": " ++ s.keyword ++ " is already set for this neighbor"
  | unknownFamilyBlock name l => l.render ++ ": unknown family block '" ++ name ++ "'"
  | duplicateFamilyBlock name l => l.render ++ ": family block '" ++ name ++ "' is already defined"
  | duplicateNeighbor address l => l.render ++ ": neighbor " ++ address ++ " is already defined"
  | missingStatement address s l => l.render ++ ": neighbor " ++ address ++ " is missing " ++ s.keyword

end Error

end RouteServer.Config
