/-! # JSON values -/

namespace RouteServer.Json

/-- A JSON value. Whole numbers and other numbers are kept apart; the members of an object stand in
the order in which they are written. -/
inductive Value where
  | null
  | bool (b : Bool)
  | integer (n : Int)
  | float (x : Float)
  | string (s : String)
  | array (items : List Value)
  | object (members : List (String × Value))
deriving Inhabited, Repr

namespace Value

def ofOption (encode : α → Value) : Option α → Value
  | some a => encode a
  | none => null

def ofNat (n : Nat) : Value := integer n

/-- A number as a value; there is none for infinities and for what is no number. -/
def ofFloat (x : Float) : Value := if x.isFinite then float x else null

def nearestFloat (n : Int) : Float :=
  let size := Float.ofScientific n.natAbs false 0
  if n < 0 then -size else size

/-- A whole number as a value: what does not fit sixty-four bits is a number like others. -/
def ofInt (n : Int) : Value :=
  if -UInt64.size ≤ 2 * n ∧ n < UInt64.size then integer n else ofFloat (nearestFloat n)

def strings (items : List String) : Value := array (items.map string)

def member? (name : String) : Value → Option Value
  | object members => members.lookup name
  | _ => none

end Value

end RouteServer.Json
