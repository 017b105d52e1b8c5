import RouteServer.Decimal.Fraction
import RouteServer.Json.Value
import RouteServer.Toml.Text

/-! # Numbers, dates and truth values of configuration files

Numbers may have underscores between their digits. Whole numbers fit sixty-four bits with a sign and may
be written in four bases; other numbers have a point or an exponent. Dates follow the calendar.
-/

namespace RouteServer.Toml

/-! ## Digits -/

/-- Digits in groups that are parted by single underscores. -/
def digits? (isDigit : Char → Bool) (cs : List Char) : Option (List Char) :=
  let groups := cs.splitOn '_'
  if groups.all fun g => g ≠ [] && g.all isDigit then some groups.flatten else none

def plainDigits? (cs : List Char) : Option (List Char) :=
  (digits? Char.isDigit cs).filter fun ds => ds = ['0'] || ds.head? ≠ some '0'

/-! ## Numbers -/

def inRange (n : Int) : Bool := -UInt64.size ≤ 2 * n && 2 * n < UInt64.size

def based? (base : Nat) (cs : List Char) : Option Int := do
  let ds ← digits? (fun c => ((hexValue? c).filter (· < base)).isSome) cs
  let n := (← ds.mapM hexValue?).foldl (fun n d => base * n + d) 0
  if inRange n then some n else none

def integer? (cs : List Char) : Option Int :=
  match cs with
  | '0' :: 'x' :: rest => based? 16 rest
  | '0' :: 'o' :: rest => based? 8 rest
  | '0' :: 'b' :: rest => based? 2 rest
  | _ => do
    let (negative, rest) := Decimal.splitSign cs
    let n : Int := Nat.ofDigitChars 10 (← plainDigits? rest) 0
    let n := if negative then -n else n
    if inRange n then some n else none

/-- A number with a point or an exponent; it must not be too large. -/
def float? (cs : List Char) : Option Float :=
  let (negative, rest) := Decimal.splitSign cs
  if rest = ['i', 'n', 'f'] then some (if negative then -(1.0 / 0.0) else 1.0 / 0.0)
  else if rest = ['n', 'a', 'n'] then some (0.0 / 0.0)
  else do
    let (mantissa, exponent) := Decimal.splitExponent rest
    let exponent ← match exponent with
      | none => some none
      | some (down, ds) => (digits? Char.isDigit ds).map fun ds => some (Decimal.exponentOf down ds)
    let x ← match mantissa.splitOn '.' with
      | [whole] => do
        let e ← exponent
        some (Decimal.Fraction.mk negative (← plainDigits? whole) [] e).toFloat
      | [whole, behind] => do
        some (Decimal.Fraction.mk negative (← plainDigits? whole)
          (← digits? Char.isDigit behind) (exponent.getD 0)).toFloat
      | _ => none
    if x.isFinite then some x else none

/-! ## Dates -/

def number? (width : Nat) (cs : List Char) : Option Nat :=
  if cs.length = width ∧ cs.all Char.isDigit then some (Nat.ofDigitChars 10 cs 0) else none

def isLeap (year : Nat) : Bool := year % 4 = 0 && (year % 100 ≠ 0 || year % 400 = 0)

def daysIn (year month : Nat) : Nat :=
  match month with
  | 2 => if isLeap year then 29 else 28
  | 4 | 6 | 9 | 11 => 30
  | _ => 31

def isDate (cs : List Char) : Bool :=
  match cs.splitOn '-' with
  | [y, m, d] =>
    match number? 4 y, number? 2 m, number? 2 d with
    | some year, some month, some day =>
      1 ≤ month && month ≤ 12 && 1 ≤ day && day ≤ daysIn year month
    | _, _, _ => false
  | _ => false

def isTime (cs : List Char) : Bool :=
  match cs.splitOn ':' with
  | [h, m, s] =>
    let seconds := s.takeWhile (· ≠ '.')
    let fraction := s.dropWhile (· ≠ '.')
    match number? 2 h, number? 2 m, number? 2 seconds with
    | some hour, some minute, some second =>
      hour ≤ 23 && minute ≤ 59 && second ≤ 60 &&
        (fraction = [] || (fraction.length ≠ 1 && fraction.tail.all Char.isDigit))
    | _, _, _ => false
  | _ => false

def isOffset (cs : List Char) : Bool :=
  match cs with
  | ['Z'] | ['z'] => true
  | sign :: rest =>
    (sign = '+' || sign = '-') &&
      match rest.splitOn ':' with
      | [h, m] =>
        match number? 2 h, number? 2 m with
        | some hour, some minute => hour ≤ 23 && minute ≤ 59
        | _, _ => false
      | _ => false
  | [] => false

def isMoment (cs : List Char) : Bool :=
  let isJoint (c : Char) : Bool := c = 'T' || c = 't' || c = ' '
  let isOffsetStart (c : Char) : Bool := c = 'Z' || c = 'z' || c = '+' || c = '-'
  match cs.dropWhile (!isJoint ·) with
  | [] => isDate cs || isTime cs
  | _ :: rest =>
    let offset := rest.dropWhile (!isOffsetStart ·)
    isDate (cs.takeWhile (!isJoint ·)) && isTime (rest.takeWhile (!isOffsetStart ·)) &&
      (offset = [] || isOffset offset)

/-- A date or time as a value: an object with one member. -/
def moment (cs : List Char) : Json.Value :=
  .object [("$__toml_private_datetime", .string (.ofList cs))]

/-! ## Scalars -/

def isScalarChar (c : Char) : Bool :=
  c.isAlphanum || c = '+' || c = '-' || c = '.' || c = '_' || c = ':'

/-- The text of a scalar: a run of its characters; a blank may part a date from a time. -/
def splitScalar (cs : List Char) : List Char × List Char :=
  let run := cs.takeWhile isScalarChar
  let rest := cs.dropWhile isScalarChar
  match isDate run, rest with
  | true, ' ' :: a :: b :: ':' :: more =>
    if a.isDigit && b.isDigit then
      let time := (a :: b :: ':' :: more).takeWhile isScalarChar
      (run ++ ' ' :: time, (a :: b :: ':' :: more).dropWhile isScalarChar)
    else (run, rest)
  | _, _ => (run, rest)

def scalar? (cs : List Char) : Option (Json.Value × List Char) :=
  let (run, rest) := splitScalar cs
  if run = ['t', 'r', 'u', 'e'] then some (.bool true, rest)
  else if run = ['f', 'a', 'l', 's', 'e'] then some (.bool false, rest)
  else match integer? run with
    | some n => some (.integer n, rest)
    | none =>
      match float? run with
      | some x => some (.ofFloat x, rest)
      | none => if isMoment run then some (moment run, rest) else none

end RouteServer.Toml
