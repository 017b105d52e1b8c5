/-! # Names in ASCII

A label with letters of any script is written in ASCII: first its ASCII characters, then, behind a hyphen,
digits that say which other characters stand where. The digits are numbers of varying length in base 36,
each the distance to the place of the next character, counted through all places and code points.
-/

namespace RouteServer.Domain

/-! ## Digits -/

def base : Nat := 36

/-- The value of a digit: letters come before the figures. -/
def digit? (c : Char) : Option Nat :=
  if 'a' ≤ c ∧ c ≤ 'z' then some (c.toNat - 97)
  else if c.isDigit then some (c.toNat - 22)
  else none

def ofDigit (n : Nat) : Char := if n < 26 then Char.ofNat (97 + n) else Char.ofNat (22 + n)

/-- The first value that ends a number at the digit of weight number `k`. -/
def threshold (bias k : Nat) : Nat := min 26 (max 1 (base * (k + 1) - bias))

/-- How often the distance is cut down for the next bias, and what is left of it. -/
def cutDown : Nat → Nat → Nat → Nat × Nat
  | 0, count, delta => (count, delta)
  | fuel + 1, count, delta =>
    if 455 < delta then cutDown fuel (count + 1) (delta / 35) else (count, delta)

/-- The bias after a number: it follows the size of the last distance. -/
def adapt (delta length : Nat) (isFirst : Bool) : Nat :=
  let delta := if isFirst then delta / 700 else delta / 2
  let (count, delta) := cutDown delta 0 (delta + delta / length)
  base * count + 36 * delta / (delta + 38)

/-! ## Reading -/

def readNumber (bias : Nat) (k weight value : Nat) : List Char → Option (Nat × List Char)
  | [] => none
  | c :: rest =>
    match digit? c with
    | none => none
    | some d =>
      let value := value + d * weight
      let t := threshold bias k
      if d < t then some (value, rest) else readNumber bias (k + 1) (weight * (base - t)) value rest

structure Insertion where
  code : Nat := 128
  place : Nat := 0
  bias : Nat := 72
  text : List Char

def insertAll : Nat → Insertion → List Char → Option (List Char)
  | _, s, [] => some s.text
  | 0, _, _ => none
  | fuel + 1, s, digits =>
    match readNumber s.bias 0 1 s.place digits with
    | none => none
    | some (value, rest) =>
      let length := s.text.length + 1
      let code := s.code + value / length
      let place := value % length
      if code.isValidChar then
        insertAll fuel
          { code, place := place + 1
            bias := adapt (value - s.place) length (s.place = 0)
            text := s.text.take place ++ Char.ofNat code :: s.text.drop place } rest
      else none

/-- Splits at the last hyphen, if something stands before it. -/
def splitPlain (cs : List Char) : List Char × List Char :=
  let digits := (cs.reverse.takeWhile (· ≠ '-')).reverse
  let plain := cs.take (cs.length - digits.length - 1)
  if '-' ∈ cs ∧ plain ≠ [] then (plain, digits) else ([], cs)

def decode? (cs : List Char) : Option (List Char) :=
  let (plain, digits) := splitPlain cs
  insertAll digits.length { text := plain } digits

/-! ## Writing -/

def writeNumber (bias : Nat) : Nat → Nat → Nat → List Char
  | 0, _, _ => []
  | fuel + 1, k, value =>
    let t := threshold bias k
    if value < t then [ofDigit value]
    else
      ofDigit (t + (value - t) % (base - t)) ::
        writeNumber bias fuel (k + 1) ((value - t) / (base - t))

structure Telling where
  delta : Nat := 0
  bias : Nat := 72
  done : Nat
  isFirst : Bool := true
  digits : List Char := []

def tellCode (code : Nat) (s : Telling) (text : List Char) : Telling :=
  text.foldl (fun s c =>
    if c.toNat < code then { s with delta := s.delta + 1 }
    else if c.toNat = code then
      { delta := 0, bias := adapt s.delta (s.done + 1) s.isFirst, done := s.done + 1, isFirst := false
        digits := s.digits ++ writeNumber s.bias (s.delta + 1) 0 s.delta }
    else s) s

def tellAll (text : List Char) : Nat → Nat → Telling → List Char
  | 0, _, s => s.digits
  | fuel + 1, code, s =>
    match (text.filter fun c => code ≤ c.toNat).map Char.toNat |>.min? with
    | none => s.digits
    | some next =>
      let s := tellCode next { s with delta := s.delta + (next - code) * (s.done + 1) } text
      tellAll text fuel (next + 1) { s with delta := s.delta + 1 }

def encode (text : List Char) : List Char :=
  let plain := text.filter fun c => c.toNat < 128
  plain ++ (if plain = [] then [] else ['-']) ++
    tellAll text text.length 128 { done := plain.length }

end RouteServer.Domain
