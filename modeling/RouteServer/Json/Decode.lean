import RouteServer.Decimal.Shortest
import RouteServer.Json.Value
import RouteServer.Text.Printable

/-! # Values of an expected form

Settings arrive as JSON values and are read as texts, numbers or names of a choice. A value of another
form is refused with a message that shows the value and says what was expected.
-/

namespace RouteServer.Json

inductive Expectation where
  | text
  | path
  | natural
  | choice
  | nothing
deriving DecidableEq, Repr

def Expectation.render : Expectation → String
  | text => "a string"
  | path => "a UTF-8 path string"
  | natural => "u64"
  | choice => "string or map"
  | nothing => "unit"

inductive DecodeError where
  | wrongForm (value : Value) (expected : Expectation)
  | outOfRange (n : Int)
  | notOneMember
  | unknownChoice (name : String) (choices : List String)
  | custom (message : String)
deriving Repr

def Value.shape : Value → String
  | null => "null"
  | bool b => "boolean " ++ (if b then "`true`" else "`false`")
  | integer n => "integer `" ++ toString n ++ "`"
  | float x => "floating point `" ++ Decimal.renderFloat x ++ "`"
  | string s => "string " ++ Text.quote s
  | array _ => "sequence"
  | object _ => "map"

def renderChoices (choices : List String) : String :=
  let ticked := choices.map fun c => "`" ++ c ++ "`"
  match ticked with
  | [] => "there are no variants"
  | [a] => "expected " ++ a
  | [a, b] => "expected " ++ a ++ " or " ++ b
  | _ => "expected one of " ++ ", ".intercalate ticked

def DecodeError.message : DecodeError → String
  | wrongForm value expected => "invalid type: " ++ value.shape ++ ", expected " ++ expected.render
  | outOfRange n => "invalid value: integer `" ++ toString n ++ "`, expected u64"
  | notOneMember => "invalid value: map, expected map with a single key"
  | unknownChoice name choices => "unknown variant `" ++ name ++ "`, " ++ renderChoices choices
  | custom message => message

namespace Value

def asText : Value → Except DecodeError String
  | string s => .ok s
  | v => .error (.wrongForm v .text)

def asPath : Value → Except DecodeError String
  | string s => .ok s
  | v => .error (.wrongForm v .path)

/-- A number from zero up that fits sixty-four bits. -/
def asNatural : Value → Except DecodeError UInt64
  | integer n =>
    if n < 0 then .error (.outOfRange n) else .ok (UInt64.ofNat n.toNat)
  | v => .error (.wrongForm v .natural)

def asOption (read : Value → Except DecodeError α) : Value → Except DecodeError (Option α)
  | null => .ok none
  | v => some <$> read v

/-- The name of a choice among `choices`: a string, or an object whose one member has that name and a
null value. -/
def asChoice (choices : List (String × α)) (v : Value) : Except DecodeError α :=
  let pick (name : String) : Except DecodeError α :=
    match choices.lookup name with
    | some a => .ok a
    | none => .error (.unknownChoice name (choices.map (·.1)))
  match v with
  | string name => pick name
  | object [(name, value)] => do
    let a ← pick name
    match value with
    | null => return a
    | other => .error (.wrongForm other .nothing)
  | object _ => .error .notOneMember
  | other => .error (.wrongForm other .choice)

end Value

end RouteServer.Json
