import RouteServer.Endpoint.Url
import RouteServer.Json.Decode

/-! # Endpoints of the control channel

The daemon listens on a Unix socket or on a TCP port. An endpoint is written as a URL.
-/

namespace RouteServer

inductive Endpoint where
  | unix (path : String)
  | tcp (host : String) (port : UInt16)
deriving DecidableEq, Repr

inductive EndpointError where
  | unsupportedScheme (scheme : String)
  | missingHost (text : String)
  | missingPort (text : String)
  | missingUnixPath (text : String)
  | notAUrl (cause : Url.UrlError)
deriving DecidableEq, Repr

def EndpointError.message : EndpointError → String
  | unsupportedScheme scheme => "unsupported socket scheme '" ++ scheme ++ "'"
  | missingHost text => "missing TCP host in '" ++ text ++ "'"
  | missingPort text => "missing TCP port in '" ++ text ++ "'"
  | missingUnixPath text => "missing Unix socket path in '" ++ text ++ "'"
  | notAUrl cause => cause.message

namespace Endpoint

def render : Endpoint → String
  | unix path => "unix://" ++ path
  | tcp host port => "tcp://" ++ host ++ ":" ++ toString port.toNat

def unixPath? : Endpoint → Option String
  | unix path => some path
  | tcp .. => none

def ofUrl (text : String) (url : Url) : Except EndpointError Endpoint :=
  match url.scheme with
  | "unix" =>
    if url.path = "" ∨ url.path = "/" then .error (.missingUnixPath text) else .ok (unix url.path)
  | "tcp" =>
    match url.host, url.port with
    | none, _ => .error (.missingHost text)
    | _, none => .error (.missingPort text)
    | some host, some port => .ok (tcp host port)
  | other => .error (.unsupportedScheme other)

def parse (text : String) : Except EndpointError Endpoint :=
  match Url.parse text with
  | .error cause => .error (.notAUrl cause)
  | .ok url => ofUrl text url

/-- Reads an endpoint that stands as a string in a JSON value. -/
def ofValue (v : Json.Value) : Except Json.DecodeError Endpoint := do
  let text ← v.asText
  (parse text).mapError fun e => .custom e.message

end Endpoint

end RouteServer
