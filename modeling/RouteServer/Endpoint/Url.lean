import RouteServer.Endpoint.Host
import RouteServer.Text.Decimal

/-! # URLs

The parts of a URL by which endpoints are told: scheme, host, port and path. White space around the
text does not count, nor do tabs and line breaks anywhere in it.
-/

namespace RouteServer

/-- A URL by its parts. A missing host is not the same as an empty path. -/
structure Url where
  scheme : String
  host : Option String
  port : Option UInt16
  path : String
deriving DecidableEq, Repr

namespace Url

/-! ## Schemes -/

/-- Schemes are treated in three ways: those of the web, that of files, and all others. -/
inductive SchemeKind where
  | web (defaultPort : UInt16)
  | file
  | other
deriving DecidableEq, Repr

def SchemeKind.of (scheme : List Char) : SchemeKind :=
  match String.ofList scheme with
  | "http" | "ws" => .web 80
  | "https" | "wss" => .web 443
  | "ftp" => .web 21
  | "file" => .file
  | _ => .other

/-- Whether a backslash counts as a slash. -/
def SchemeKind.isSpecial (kind : SchemeKind) : Bool := kind ≠ .other

/-! ## The text before the parts -/

/-- The text without controls and spaces around it and without tabs and line breaks. -/
def clean (text : String) : List Char :=
  let trimmed := (text.toList.dropWhile (· ≤ ' ')).reverse.dropWhile (· ≤ ' ') |>.reverse
  trimmed.filter fun c => c ≠ '\t' ∧ c ≠ '\n' ∧ c ≠ '\r'

def isSchemeChar (c : Char) : Bool := c.isAlphanum || c = '+' || c = '-' || c = '.'

/-- The scheme in small letters, and what follows its colon. -/
def splitScheme (cs : List Char) : Option (List Char × List Char) :=
  match cs with
  | [] => none
  | first :: _ =>
    if !first.isAlpha then none
    else match cs.dropWhile isSchemeChar with
      | ':' :: rest => some ((cs.takeWhile isSchemeChar).map Char.toLower, rest)
      | _ => none

/-! ## Authority -/

def endsAuthority (special : Bool) (c : Char) : Bool :=
  c = '/' || c = '?' || c = '#' || (special && c = '\\')

/-- Splits the user information off, which ends at the last `@` of the authority: whether there is any
to be kept, and the rest. -/
def splitUser (special : Bool) (cs : List Char) : Except UrlError (Bool × List Char) :=
  let authority := cs.takeWhile fun c => !endsAuthority special c
  let rest := cs.dropWhile fun c => !endsAuthority special c
  let host := (authority.reverse.takeWhile (· ≠ '@')).reverse
  if '@' ∉ authority then .ok (false, cs)
  else
    let user := authority.take (authority.length - host.length - 1)
    if user = [] ∧ host = [] ∧ rest ≠ [] then .error .emptyHost
    else .ok (user ≠ [] && user ≠ [':'], host ++ rest)

/-- Splits the text of the host off; a colon inside brackets belongs to it. -/
def splitHost (special : Bool) (inBrackets : Bool) : List Char → List Char × List Char
  | [] => ([], [])
  | c :: rest =>
    if (c = ':' && !inBrackets) || endsAuthority special c then ([], c :: rest)
    else
      let inBrackets := if c = '[' then true else if c = ']' then false else inBrackets
      let (host, rest) := splitHost special inBrackets rest
      (c :: host, rest)

/-- Reads the port behind the colon: none without digits, and none if it is that of the scheme. -/
def readPort (usual : Option UInt16) (cs : List Char) : Except UrlError (Option UInt16 × List Char) :=
  let digits := cs.takeWhile Char.isDigit
  let rest := cs.dropWhile Char.isDigit
  if UInt16.size ≤ Nat.ofDigitChars 10 digits 0 then .error .invalidPort
  else if rest.head?.any fun c => c ∉ ['/', '\\', '?', '#'] then .error .invalidPort
  else if digits = [] then .ok (none, rest)
  else
    let port := UInt16.ofNat (Nat.ofDigitChars 10 digits 0)
    .ok (if usual = some port then none else some port, rest)

def readHost (kind : SchemeKind) (cs : List Char) :
    Except UrlError (Option (List Char) × Option UInt16 × List Char) := do
  let (text, rest) := splitHost kind.isSpecial false cs
  match kind with
  | .web usual =>
    if text = [] then throw .emptyHost
    let host ← domainHost text
    match rest with
    | ':' :: rest =>
      let (port, rest) ← readPort (some usual) rest
      return (some host, port, rest)
    | _ => return (some host, none, rest)
  | _ =>
    let host ← opaqueHost text
    match rest with
    | ':' :: rest =>
      if host = [] then throw .emptyHost
      let (port, rest) ← readPort none rest
      return (some host, port, rest)
    | _ => return (if host = [] then none else some host, none, rest)

/-- Reads the host of a file; a drive letter is none. -/
def readFileHost (cs : List Char) : Except UrlError (Option (List Char) × List Char) :=
  let text := cs.takeWhile fun c => !endsAuthority true c
  let rest := cs.dropWhile fun c => !endsAuthority true c
  match text with
  | [] => .ok (none, rest)
  | [a, b] =>
    if a.isAlpha && (b = ':' || b = '|') then .ok (none, cs)
    else (domainHost text).map fun host => (some host, rest)
  | _ => (domainHost text).map fun host => (some host, rest)

/-! ## Paths -/

/-- Whether an encoded segment means the one before it. -/
def isUp (segment : List Char) : Bool :=
  String.ofList (segment.map Char.toLower) ∈ ["..", "%2e%2e", "%2e.", ".%2e"]

/-- Whether an encoded segment means itself. -/
def isHere (segment : List Char) : Bool := String.ofList (segment.map Char.toLower) ∈ [".", "%2e"]

/-- Whether a segment begins with a drive letter, which is not left by going up. -/
def isDrive : List Char → Bool
  | a :: b :: rest => a.isAlpha && (b = ':' || b = '|') && (rest.head?.all (· = '\\'))
  | _ => false

/-- Goes one segment up. The segments stand in reverse order. -/
def goUp : List (List Char) → List (List Char)
  | [] => []
  | last :: before => if isDrive last then last :: before else before

/-- Follows the segments of a path; those that stand for a directory are closed by a slash. -/
def followSegments (done : List (List Char)) : List (List Char) → List (List Char)
  | [] => done
  | [last] =>
    if isUp last then [] :: goUp done else if isHere last then [] :: done else last :: done
  | segment :: rest =>
    if isUp segment then followSegments (goUp done) rest
    else if isHere segment then followSegments done rest
    else followSegments (segment :: done) rest

def endsPath (c : Char) : Bool := c = '?' || c = '#'

def readPath (special : Bool) (cs : List Char) : List Char :=
  let text := cs.takeWhile fun c => !endsPath c
  let segments := (text.splitOnP fun c => c = '/' || (special && c = '\\')).map
    (percentEncode isPathEncoded)
  (followSegments [] segments).reverse.flatMap fun segment => '/' :: segment

def pathAfterHost (special : Bool) (cs : List Char) : List Char :=
  match cs with
  | [] => if special then ['/'] else []
  | c :: rest =>
    if c = '/' || (special && c = '\\') then readPath special rest
    else if endsPath c then (if special then ['/'] else [])
    else readPath special cs

/-! ## URLs -/

def readAuthority (scheme : String) (kind : SchemeKind) (cs : List Char) : Except UrlError Url := do
  let (hasUser, rest) ← splitUser kind.isSpecial cs
  let (host, port, rest) ← readHost kind rest
  if host = none ∧ hasUser then throw .emptyHost
  return { scheme, host := host.map .ofList, port,
           path := .ofList (pathAfterHost kind.isSpecial rest) }

def isSlash (c : Char) : Bool := c = '/' || c = '\\'

def parse (text : String) : Except UrlError Url :=
  match splitScheme (clean text) with
  | none => .error .relativeWithoutBase
  | some (schemeChars, rest) =>
    let scheme := String.ofList schemeChars
    match SchemeKind.of schemeChars with
    | .web usual => readAuthority scheme (.web usual) (rest.dropWhile isSlash)
    | .file =>
      match rest with
      | a :: b :: rest' =>
        if isSlash a && isSlash b then
          (readFileHost rest').map fun (host, rest) =>
            { scheme, host := host.map .ofList, port := none
              path := .ofList (pathAfterHost true rest) }
        else .ok { scheme, host := none, port := none, path := .ofList (pathAfterHost true rest) }
      | _ => .ok { scheme, host := none, port := none, path := .ofList (pathAfterHost true rest) }
    | .other =>
      match rest with
      | '/' :: '/' :: rest => readAuthority scheme .other rest
      | '/' :: rest => .ok { scheme, host := none, port := none, path := .ofList (readPath false rest) }
      | _ =>
        let path := percentEncode isControl (rest.takeWhile fun c => !endsPath c)
        .ok { scheme, host := none, port := none, path := .ofList path }

end Url

end RouteServer
