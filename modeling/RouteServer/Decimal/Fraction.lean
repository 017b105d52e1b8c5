import RouteServer.Text.Decimal

/-! # Reading decimal fractions

A decimal number is digits, perhaps a point among them, and perhaps an exponent. It is read as the
nearest number of the binary format.
-/

namespace RouteServer.Decimal

/-- A decimal number by its parts: the digits before and behind the point, and the exponent. -/
structure Fraction where
  negative : Bool
  whole : List Char
  behind : List Char
  exponent : Int
deriving DecidableEq, Repr

/-- The digits that a finite number other than zero has in front of its point, at most. -/
def maxMagnitude : Int := 400

def Fraction.toFloat (d : Fraction) : Float :=
  let digits := Nat.ofDigitChars 10 (d.whole ++ d.behind) 0
  let scale := d.exponent - d.behind.length
  let magnitude := scale + (Nat.toDigits 10 digits).length
  let size : Float :=
    if digits = 0 ∨ magnitude < -maxMagnitude then 0.0
    else if maxMagnitude < magnitude then 1.0 / 0.0
    else if scale < 0 then Float.ofScientific digits true scale.natAbs
    else Float.ofScientific digits false scale.natAbs
  if d.negative then -size else size

def splitSign : List Char → Bool × List Char
  | '-' :: rest => (true, rest)
  | '+' :: rest => (false, rest)
  | cs => (false, cs)

/-- Splits an exponent off: the text before it, and its sign and digits. -/
def splitExponent (cs : List Char) : List Char × Option (Bool × List Char) :=
  let isMark (c : Char) : Bool := c = 'e' || c = 'E'
  match cs.dropWhile (!isMark ·) with
  | [] => (cs, none)
  | _ :: rest => (cs.takeWhile (!isMark ·), some (splitSign rest))

def exponentOf (negative : Bool) (digits : List Char) : Int :=
  let n : Int := Nat.ofDigitChars 10 digits 0
  if negative then -n else n

/-- Reads digits with one point, before or behind which there is at least one digit. -/
def readPointed? (cs : List Char) : Option Fraction :=
  let (negative, rest) := splitSign cs
  let (mantissa, exponent) := splitExponent rest
  match mantissa.splitOn '.' with
  | [whole, behind] =>
    if !(whole ++ behind).all Char.isDigit || (whole ++ behind).isEmpty then none
    else match exponent with
      | none => some ⟨negative, whole, behind, 0⟩
      | some (down, digits) =>
        if digits.isEmpty || !digits.all Char.isDigit then none
        else some ⟨negative, whole, behind, exponentOf down digits⟩
  | _ => none

end RouteServer.Decimal
