import RouteServer.Files.Tree
import RouteServer.Json.Overlay
import RouteServer.Toml.Document

/-! # Reading configuration files

A file may name another one that it extends: what it does not say itself is taken from there. The other
file may extend a third one, and so on, but never one that is being read already.
-/

namespace RouteServer.Settings

open Files

/-! ## Faults -/

inductive SourceFault where
  | requiredMissing
  | notRegular
  | baseNotRegular
  | baseMissing (base referrer : String)
  | baseNotText (kind : String)
  | baseEmpty
  | unreadable (cause : SystemError)
  | unknownFormat (format : String)
  | malformed
deriving DecidableEq, Repr

def SourceFault.message : SourceFault → String
  | requiredMissing => "required configuration file not found"
  | notRegular => "configuration path is not a regular file"
  | baseNotRegular => "extended path is not a regular file"
  | baseMissing base referrer =>
    "extended configuration file '" ++ base ++ "' does not exist (referenced from '" ++ referrer ++ "')"
  | baseNotText kind => "'extends' key must be a string, but found type: " ++ kind
  | baseEmpty => "'extends' key must be a non-empty string"
  | unreadable cause => cause.message
  | unknownFormat format =>
    format ++ " feature disabled: enable the '" ++ format ++ "' feature to support this file format"
  | malformed => "not a configuration file"

inductive SourceError where
  | file (path : String) (fault : SourceFault)
  | cycle (paths : List String)
deriving DecidableEq, Repr

def SourceError.message : SourceError → String
  | file path fault => "Configuration file error in '" ++ path ++ "': " ++ fault.message
  | cycle paths => "cyclic extends detected: " ++ " -> ".intercalate paths

def SourceError.isMissing : SourceError → Bool
  | file _ fault => fault = .requiredMissing
  | cycle _ => false

/-! ## One file -/

/-- The format of a file in one of the formats that are not read, by the ending of its name. -/
def foreignFormat? (path : String) : Option String :=
  match Path.extension? path with
  | some "json" | some "json5" => some "json5"
  | some "yaml" | some "yml" => some "yaml"
  | _ => none

def readDocument (t : Tree) (path : String) : Except SourceFault Json.Value := do
  let text ← (t.readText path).mapError .unreadable
  match foreignFormat? path with
  | some format => throw (.unknownFormat format)
  | none =>
    match Toml.parse? text with
    | some v => return v
    | none => throw .malformed

def kindOf : Json.Value → String
  | .null => "null"
  | .bool _ => "bool"
  | .integer _ | .float _ => "number"
  | .string _ => "string"
  | .array _ => "array"
  | .object _ => "object"

def baseOf? (v : Json.Value) : Except SourceFault (Option String) :=
  match v.member? "extends" with
  | none => .ok none
  | some (.string "") => .error .baseEmpty
  | some (.string base) => .ok (some base)
  | some other => .error (.baseNotText (kindOf other))

/-! ## Files that extend others -/

/-- The path without links of the file that `referrer` extends. -/
def resolveBase (t : Tree) (referrer base : String) : Except SourceError String :=
  let path := Path.join ((Path.parent? referrer).getD "") base
  match t.canonical path with
  | .ok whole => if t.isFile whole then .ok whole else .error (.file whole .baseNotRegular)
  | .error .notFound => .error (.file path (.baseMissing path referrer))
  | .error cause => .error (.file path (.unreadable cause))

/-- What the file at a path without links says, together with the files that it extends. Those that lead
to it, outermost first, are in `reading`. A file that extends itself is found before `fuel` ends, since
every other step leads to another file. -/
def readExtended (t : Tree) (reading : List String) (path : String) :
    Nat → Except SourceError Json.Value
  | 0 => .error (.cycle (reading ++ [path]))
  | fuel + 1 => do
    if path ∈ reading then throw (.cycle (reading ++ [path]))
    let own ← (readDocument t path).mapError (.file path)
    match ← (baseOf? own).mapError (.file path) with
    | none => return own
    | some base =>
      let base ← resolveBase t path base
      return (← readExtended t (reading ++ [path]) base fuel).overlay own

def readSource (t : Tree) (path : String) : Except SourceError (Option Json.Value) :=
  match t.find true path with
  | .error .notFound => .ok none
  | .error cause => .error (.file path (.unreadable cause))
  | .ok (place, .file _) =>
    some <$> readExtended t [] (Tree.renderPlace place) (t.entries.size + 1)
  | .ok _ => .error (.file path .notRegular)

end RouteServer.Settings
