/-! # UTF-8

Bytes are read one at a time. A lead byte fixes how many bytes follow and the range of the first of
them; the longest start of a sequence that cannot be completed is one fault. Reading either replaces
each fault by one character or refuses a text with a fault.
-/

namespace RouteServer.Utf8

/-- A sequence that is not complete: the range of the next byte, how many bytes are missing behind it,
and the value so far. -/
structure Pending where
  low : UInt8
  high : UInt8
  behind : Nat
  value : Nat
deriving DecidableEq, Repr

/-- What a first byte begins: a whole character, a longer sequence, or nothing. -/
inductive Lead where
  | char (c : Char)
  | pending (p : Pending)
  | fault
deriving DecidableEq, Repr

def Lead.ofByte (b : UInt8) : Lead :=
  if b < 0x80 then .char (Char.ofNat b.toNat)
  else if b < 0xC2 then .fault
  else if b < 0xE0 then .pending ⟨0x80, 0xBF, 0, (b - 0xC0).toNat⟩
  else if b = 0xE0 then .pending ⟨0xA0, 0xBF, 1, 0⟩
  else if b = 0xED then .pending ⟨0x80, 0x9F, 1, 0xD⟩
  else if b < 0xF0 then .pending ⟨0x80, 0xBF, 1, (b - 0xE0).toNat⟩
  else if b = 0xF0 then .pending ⟨0x90, 0xBF, 2, 0⟩
  else if b < 0xF4 then .pending ⟨0x80, 0xBF, 2, (b - 0xF0).toNat⟩
  else if b = 0xF4 then .pending ⟨0x80, 0x8F, 2, 4⟩
  else .fault

def start (b : UInt8) : List (Option Char) × Option Pending :=
  match Lead.ofByte b with
  | .char c => ([some c], none)
  | .pending p => ([], some p)
  | .fault => ([none], none)

/-- Reads a byte; a byte that does not continue the open sequence makes it a fault and begins anew. -/
def step (b : UInt8) : Option Pending → List (Option Char) × Option Pending
  | none => start b
  | some p =>
    if p.low ≤ b ∧ b ≤ p.high then
      let value := 64 * p.value + (b - 0x80).toNat
      match p.behind with
      | 0 => ([some (Char.ofNat value)], none)
      | n + 1 => ([], some ⟨0x80, 0xBF, n, value⟩)
    else
      let (chars, next) := start b
      (none :: chars, next)

/-- The characters of a byte string in order, with one gap for each fault. -/
def decodeFrom (state : Option Pending) : List UInt8 → List (Option Char)
  | [] => if state.isSome then [none] else []
  | b :: rest =>
    let (chars, next) := step b state
    chars ++ decodeFrom next rest

def decode (bytes : List UInt8) : List (Option Char) := decodeFrom none bytes

def decodeLossy (bytes : List UInt8) : String :=
  .ofList ((decode bytes).map (·.getD '\uFFFD'))

def decode? (bytes : List UInt8) : Option String := ((decode bytes).mapM id).map .ofList

def encode (text : String) : List UInt8 := text.toUTF8.toList

end RouteServer.Utf8
