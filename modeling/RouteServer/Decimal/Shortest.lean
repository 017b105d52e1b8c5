/-! # The shortest decimal text of a number

The digits of a number are the fewest that no other number of the format is as near to; of several such
decimals the nearest one is taken. The search runs in exact arithmetic over the decimal grids from one
to seventeen digits: if a grid has a point that reads back, one of the two neighbours of the number on
that grid does.
-/

namespace RouteServer.Decimal

/-! ## Decoding -/

/-- A finite number `mantissa * 2 ^ exponent` without its sign. -/
structure Binary where
  mantissa : Nat
  exponent : Int
deriving DecidableEq, Repr

/-- The fifty-two lowest bits of a number are its fraction, those above it the exponent. -/
def exponentUnit : Nat := 0x10000000000000

/-- The exponent has eleven bits. -/
def exponentCount : Nat := 0x800

/-- The highest bit is the sign. -/
def signUnit : Nat := exponentCount * exponentUnit

/-- The finite nonzero number that sixty-four bits stand for, without its sign. -/
def Binary.ofBits (bits : UInt64) : Binary :=
  let fraction : Nat := bits.toNat % exponentUnit
  let exponent : Nat := bits.toNat / exponentUnit % exponentCount
  if exponent = 0 then ⟨fraction, -1074⟩ else ⟨fraction + exponentUnit, (exponent : Int) - 1075⟩

/-- The scale on which the number and the ends of its interval are whole: the number times `4`, as a
fraction of naturals. -/
def Binary.fraction (x : Binary) : Nat × Nat :=
  if 0 ≤ x.exponent then (4 * x.mantissa * Nat.pow 2 x.exponent.toNat, 4)
  else (4 * x.mantissa, 4 * Nat.pow 2 (-x.exponent).toNat)

/-- The ends of the interval of reals that round to the number, over the denominator of `fraction`. -/
def Binary.interval (x : Binary) : Nat × Nat :=
  let unit := if 0 ≤ x.exponent then Nat.pow 2 x.exponent.toNat else 1
  let value := x.fraction.1
  let below := if x.mantissa = exponentUnit ∧ -1074 < x.exponent then unit else 2 * unit
  (value - below, value + 2 * unit)

/-! ## Searching -/

/-- Digits and the power of ten that they are counted in. -/
structure Digits where
  digits : Nat
  scale : Int
deriving DecidableEq, Repr

/-- Whether `n * 10 ^ scale` lies in the interval; its ends belong to it if the mantissa is even. -/
def Binary.readsAs (x : Binary) (d : Digits) : Bool :=
  let (low, high) := x.interval
  let (_, den) := x.fraction
  let (num, unit) :=
    if 0 ≤ d.scale then (d.digits * Nat.pow 10 d.scale.toNat * den, 1)
    else (d.digits * den, Nat.pow 10 (-d.scale).toNat)
  if x.mantissa % 2 = 0 then low * unit ≤ num ∧ num ≤ high * unit
  else low * unit < num ∧ num < high * unit

/-- The neighbour below the number on the grid of `10 ^ scale`, and twice the distance to it on that
grid in parts of the second number. -/
def Binary.below (x : Binary) (scale : Int) : Nat × Nat × Nat :=
  let (num, den) := x.fraction
  let (num, den) :=
    if 0 ≤ scale then (num, den * Nat.pow 10 scale.toNat) else (num * Nat.pow 10 (-scale).toNat, den)
  (num / den, 2 * (num % den), den)

/-- The point of the grid of `10 ^ scale` that reads back as the number, the nearer of two. -/
def Binary.onGrid? (x : Binary) (scale : Int) : Option Digits :=
  let (low, twice, den) := x.below scale
  let lower : Digits := ⟨low, scale⟩
  let upper : Digits := ⟨low + 1, scale⟩
  match x.readsAs lower && 0 < low, x.readsAs upper with
  | true, true => some (if twice < den ∨ (twice = den ∧ low % 2 = 0) then lower else upper)
  | true, false => some lower
  | false, true => some upper
  | false, false => none

def Binary.magnitude (x : Binary) : Int :=
  let (num, den) := x.fraction
  if den ≤ num then (toString (num / den)).length
  else 1 - (toString (den / num)).length

def Digits.strip (d : Digits) : Nat → Digits
  | 0 => d
  | fuel + 1 =>
    if d.digits % 10 = 0 ∧ d.digits ≠ 0 then Digits.strip ⟨d.digits / 10, d.scale + 1⟩ fuel else d

/-- The shortest digits that read back as the number. -/
def Binary.shortest (x : Binary) : Digits :=
  let grids := (List.range 19).map fun (k : Nat) => x.magnitude - (k : Int)
  ((grids.findSome? x.onGrid?).getD ⟨0, 0⟩).strip 20

/-! ## Writing -/

/-- Numbers from 0.00001 up to sixteen digits before the point are written with a point, all others
with an exponent and its sign; a number with a point has at least one digit behind it. -/
def Digits.render (d : Digits) : String :=
  let text := toString d.digits
  let point := (text.length : Int) + d.scale
  if 0 ≤ d.scale ∧ point ≤ 16 then text ++ .ofList (List.replicate d.scale.toNat '0') ++ ".0"
  else if 0 < point ∧ point ≤ 16 then
    .ofList (text.toList.take point.toNat) ++ "." ++ .ofList (text.toList.drop point.toNat)
  else if -5 < point ∧ point ≤ 0 then
    "0." ++ .ofList (List.replicate (-point).toNat '0') ++ text
  else
    let tail := text.toList.drop 1
    .ofList (text.toList.take 1) ++ (if tail = [] then "" else "." ++ .ofList tail) ++ "e" ++
      (if 0 < point then "+" else "") ++ toString (point - 1)

def renderFloat (x : Float) : String :=
  let bits := x.toBits
  let sign := if bits.toNat < signUnit then "" else "-"
  let exponent := bits.toNat / exponentUnit % exponentCount
  if exponent = 2047 then
    if bits.toNat % exponentUnit = 0 then sign ++ "inf" else "NaN"
  else if bits.toNat % signUnit = 0 then sign ++ "0.0"
  else sign ++ (Binary.ofBits bits).shortest.render

end RouteServer.Decimal
