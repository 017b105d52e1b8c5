/-! # Decimal numbers as text

Whole numbers are written with ASCII digits and no leading zeros. They are read more freely: leading
zeros and one plus sign are accepted, and a number that does not fit its width is refused.
-/

namespace RouteServer.Decimal

/-- The value of a run of ASCII digits, or nothing if the text is empty or holds anything else. -/
def digits? (cs : List Char) : Option Nat :=
  if cs ≠ [] ∧ cs.all Char.isDigit then some (Nat.ofDigitChars 10 cs 0) else none

def dropPlus : List Char → List Char
  | '+' :: rest => rest
  | cs => cs

/-- Reads digits behind an optional plus sign, if the value is below `bound`. -/
def below? (bound : Nat) (cs : List Char) : Option Nat :=
  (digits? (dropPlus cs)).filter (· < bound)

def readUInt16? (text : String) : Option UInt16 :=
  (below? UInt16.size text.toList).map UInt16.ofNat

def readUInt32? (text : String) : Option UInt32 :=
  (below? UInt32.size text.toList).map UInt32.ofNat

def readUInt64? (text : String) : Option UInt64 :=
  (below? UInt64.size text.toList).map UInt64.ofNat

/-- Reads digits alone: no sign is accepted. -/
def readCode? (text : String) : Option UInt32 :=
  ((digits? text.toList).filter (· < UInt32.size)).map UInt32.ofNat

/-! ## Writing -/

def render (n : Nat) : String := toString n

/-- The number with zeros in front up to two digits. -/
def twoDigits (n : Nat) : String := if n < 10 then "0" ++ render n else render n

end RouteServer.Decimal
