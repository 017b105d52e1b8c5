/-! # Tables of characters

Properties of characters are tables of ranges of code points. A table is written as a text of its ranges,
each with what holds for its characters: `41-5A=61` says so of the characters from 41 to 5A, and `AD` is
a range of one character about which nothing more is said.
-/

namespace RouteServer.Unicode

/-! ## Tables -/

structure CodeRange (α : Type) where
  low : Nat
  high : Nat
  value : α
deriving Repr

structure CodeMap (α : Type) where
  ranges : List (CodeRange α)

def CodeMap.range? (m : CodeMap α) (n : Nat) : Option (CodeRange α) :=
  m.ranges.find? fun r => r.low ≤ n && n ≤ r.high

def CodeMap.find? (m : CodeMap α) (n : Nat) : Option α := (m.range? n).map (·.value)

/-- A table that only says which characters it holds. -/
abbrev CodeSet : Type := CodeMap Unit

def CodeSet.contains (s : CodeSet) (c : Char) : Bool := (s.find? c.toNat).isSome

/-! ## Reading -/

def digitValue (c : Char) : Nat := if c.isDigit then c.toNat - 48 else c.toNat - 55

def readCode (cs : List Char) : Nat := cs.foldl (fun n c => 16 * n + digitValue c) 0

def readCodes (cs : List Char) : List Nat :=
  if cs = [] then [] else (cs.splitOn '.').map readCode

/-- The signs that stand before what a table says of a range. -/
def isSign (c : Char) : Bool := c = '=' || c = '>'

/-- Reads a range. What is said of it is read from its sign on. -/
def readRange (readValue : List Char → α) (cs : List Char) : CodeRange α :=
  let value := readValue (cs.dropWhile (!isSign ·))
  match (cs.takeWhile (!isSign ·)).splitOn '-' with
  | [low, high] => ⟨readCode low, readCode high, value⟩
  | codes => ⟨readCode codes.flatten, readCode codes.flatten, value⟩

/-- Reads a table; blanks and line ends stand between its ranges. -/
def CodeMap.read (readValue : List Char → α) (text : String) : CodeMap α :=
  ⟨((text.toList.splitOnP fun c => c = ' ' || c = '\n').filter (· ≠ [])).map (readRange readValue)⟩

def CodeSet.read (text : String) : CodeSet := CodeMap.read (fun _ => ()) text

end RouteServer.Unicode
