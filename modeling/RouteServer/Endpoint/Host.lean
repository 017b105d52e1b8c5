import RouteServer.Address.Parser
import RouteServer.Address.Printer
import RouteServer.Domain.Ascii
import RouteServer.Text.Utf8

/-! # Hosts of URLs

The host of a URL with a known scheme is a domain or an IPv4 address in any of several spellings; every
other URL has an opaque host, which is kept as it is. Both kinds of URL know IPv6 addresses in brackets.
-/

namespace RouteServer.Url

inductive UrlError where
  | relativeWithoutBase
  | emptyHost
  | invalidPort
  | invalidIpv4
  | invalidIpv6
  | invalidDomainCharacter
  | invalidInternationalDomain
deriving DecidableEq, Repr

def UrlError.message : UrlError → String
  | relativeWithoutBase => "relative URL without a base"
  | emptyHost => "empty host"
  | invalidPort => "invalid port number"
  | invalidIpv4 => "invalid IPv4 address"
  | invalidIpv6 => "invalid IPv6 address"
  | invalidDomainCharacter => "invalid domain character"
  | invalidInternationalDomain => "invalid international domain name"

/-! ## Percent encoding -/

def upperHex (n : Nat) : Char := if n < 10 then Char.ofNat (48 + n) else Char.ofNat (55 + n)

def encodeByte (b : UInt8) : List Char := ['%', upperHex (b.toNat / 16), upperHex (b.toNat % 16)]

/-- Writes a character by its bytes if it is in the set. -/
def encodeChar (inSet : Char → Bool) (c : Char) : List Char :=
  if inSet c then (Utf8.encode (.singleton c)).flatMap encodeByte else [c]

def percentEncode (inSet : Char → Bool) (cs : List Char) : List Char := cs.flatMap (encodeChar inSet)

/-- Controls and everything that is not ASCII. -/
def isControl (c : Char) : Bool := c.toNat < 0x20 || 0x7F ≤ c.toNat

/-- The characters that paths write by their bytes. -/
def isPathEncoded (c : Char) : Bool :=
  isControl c || c ∈ [' ', '"', '#', '<', '>', '?', '\x60', '\x7b', '\x7d']

/-- The bytes that a text with percent signs stands for. -/
def percentDecode : List Char → List UInt8
  | '%' :: a :: b :: rest =>
    match IPv6.hexDigit? a, IPv6.hexDigit? b with
    | some high, some low => UInt8.ofNat (16 * high + low) :: percentDecode rest
    | _, _ => 37 :: percentDecode (a :: b :: rest)
  | c :: rest => Utf8.encode (.singleton c) ++ percentDecode rest
  | [] => []

/-! ## Opaque hosts -/

def bracketed (cs : List Char) : Except UrlError (List Char) :=
  if cs.getLast? = some ']' then
    match IPv6.parseChars? cs.dropLast with
    | some address => .ok (['['] ++ address.renderCompressed.toList ++ [']'])
    | none => .error .invalidIpv6
  else .error .invalidIpv6

def isForbiddenInHost (c : Char) : Bool :=
  c ∈ ['\x00', '\t', '\n', '\r', ' ', '#', '/', ':', '<', '>', '?', '@', '[', '\\', ']', '^', '|']

def opaqueHost (cs : List Char) : Except UrlError (List Char) :=
  match cs with
  | '[' :: rest => bracketed rest
  | _ =>
    if cs.any isForbiddenInHost then .error .invalidDomainCharacter
    else .ok (percentEncode isControl cs)

/-! ## Domains -/

/-- A number of an IPv4 address: hexadecimal behind `0x`, octal behind `0`, else decimal. -/
def ipv4Number? (cs : List Char) : Option Nat :=
  let digits (base : Nat) (ds : List Char) : Option Nat :=
    (ds.mapM fun c => (IPv6.hexDigit? c).filter (· < base)).map fun ns =>
      ns.foldl (fun n d => base * n + d) 0
  match cs with
  | [] => none
  | '0' :: 'x' :: rest => digits 16 rest
  | '0' :: 'X' :: rest => digits 16 rest
  | '0' :: c :: rest => digits 8 (c :: rest)
  | _ => digits 10 cs

/-- The labels of a domain; an empty last one does not count. -/
def labels (domain : List Char) : List (List Char) :=
  let parts := domain.splitOn '.'
  if 1 < parts.length ∧ parts.getLast? = some [] then parts.dropLast else parts

/-- Whether the last label of a domain is a number, so that the whole has to be an address. -/
def endsInNumber (domain : List Char) : Bool :=
  match (labels domain).getLast? with
  | none => false
  | some last => (last ≠ [] && last.all Char.isDigit) || (ipv4Number? last).isSome

/-- Whether the labels are the numbers of an IPv4 address, of which the last may span several octets. -/
def isIpv4 (domain : List Char) : Bool :=
  let parts := labels domain
  match parts.mapM ipv4Number? with
  | none => false
  | some numbers =>
    parts.length ≤ 4 && numbers.dropLast.all (· < 256) &&
      (numbers.getLastD 0 < Nat.pow 256 (5 - parts.length))

def isForbiddenInDomain (c : Char) : Bool :=
  isForbiddenInHost c || c.toNat < 0x20 || c.toNat = 0x7F || c = '%' || c = '\uFFFD'

/-- Reads the host of a URL with a known scheme. -/
def domainHost (cs : List Char) : Except UrlError (List Char) :=
  match cs with
  | '[' :: rest => bracketed rest
  | _ =>
    let domain? := do
      let text ← Utf8.decode? (percentDecode cs)
      Domain.toAscii? isForbiddenInDomain text.toList
    match domain? with
    | none => .error .invalidInternationalDomain
    | some domain =>
      if domain = [] then .error .emptyHost
      else if endsInNumber domain then
        if isIpv4 domain then .ok domain else .error .invalidIpv4
      else .ok domain

end RouteServer.Url
