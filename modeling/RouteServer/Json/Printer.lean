import RouteServer.Decimal.Shortest
import RouteServer.Json.Value

/-! # Writing JSON

Values are written without white space, and strings with the fewest escapes: quotes, backslashes and
controls below the space.
-/

namespace RouteServer.Json

/-! ## Strings -/

def hexDigit (n : Nat) : Char := if n < 10 then Char.ofNat (48 + n) else Char.ofNat (87 + n)

def escape (c : Char) : List Char :=
  if c = '"' ∨ c = '\\' then ['\\', c]
  else if c = '\x08' then ['\\', 'b']
  else if c = '\t' then ['\\', 't']
  else if c = '\n' then ['\\', 'n']
  else if c = '\x0c' then ['\\', 'f']
  else if c = '\r' then ['\\', 'r']
  else if c.toNat < 32 then ['\\', 'u', '0', '0', hexDigit (c.toNat / 16), hexDigit (c.toNat % 16)]
  else [c]

def renderString (s : String) : String := .ofList (['"'] ++ s.toList.flatMap escape ++ ['"'])

/-! ## Values -/

mutual

def Value.render : Value → String
  | .null => "null"
  | .bool b => if b then "true" else "false"
  | .integer n => toString n
  | .float x => Decimal.renderFloat x
  | .string s => renderString s
  | .array items => "[" ++ ",".intercalate (renderItems items) ++ "]"
  | .object members => "\x7b" ++ ",".intercalate (renderMembers members) ++ "\x7d"

def Value.renderItems : List Value → List String
  | [] => []
  | v :: rest => v.render :: renderItems rest

def Value.renderMembers : List (String × Value) → List String
  | [] => []
  | (name, v) :: rest => (renderString name ++ ":" ++ v.render) :: renderMembers rest

end

end RouteServer.Json
