import RouteServer.Decimal.Fraction
import RouteServer.Text.Blank
import RouteServer.Toml.Text
import RouteServer.Unicode.Alphanumeric

/-! # Patterns for the values of fields

A filter may ask for the value that a field has: a truth value, a number, or any text that matches a
regular expression. Here it is told which texts are regular expressions. They do without the tables of
Unicode: classes of letters or digits, borders of words and letters in either case are known for ASCII
only, behind the flag that turns Unicode off; and what can match a part of a character is refused.
-/

namespace RouteServer.Log.Pattern

/-! ## Flags -/

/-- How the rest of a group is to be read. -/
structure Flags where
  eitherCase : Bool := false
  ignoresBlanks : Bool := false
  isUnicode : Bool := true
deriving DecidableEq, Repr

namespace Flags

/-- What follows blanks and comments. A comment runs from `#` to the end of its line. -/
def skipBlanks (inComment : Bool) : List Char → List Char
  | [] => []
  | c :: rest =>
    if inComment then skipBlanks (c ≠ '\n') rest
    else if Text.isBlank c then skipBlanks false rest
    else if c = '#' then skipBlanks true rest
    else c :: rest

def skip (f : Flags) (cs : List Char) : List Char :=
  if f.ignoresBlanks then skipBlanks false cs else cs

def set (f : Flags) (on off : List Char) : Flags :=
  let now (name : Char) (before : Bool) : Bool := name ∈ on || (before && name ∉ off)
  { eitherCase := now 'i' f.eitherCase
    ignoresBlanks := now 'x' f.ignoresBlanks
    isUnicode := now 'u' f.isUnicode }

/-- Reads flags up to a colon or a closing bracket. Each flag is named once; a hyphen stands before those
to be turned off. -/
def read (f : Flags) (cs : List Char) : Option (Flags × List Char) :=
  let isEnd (c : Char) : Bool := c = ':' || c = ')'
  let text := cs.takeWhile (!isEnd ·)
  let names := text.filter (· ≠ '-')
  let on := text.takeWhile (· ≠ '-')
  let off := text.drop (on.length + 1)
  if names.all ("imsUuRx".toList.contains ·) && names.Nodup && '-' ∉ off && text.getLast? ≠ some '-' then
    some (f.set on off, cs.drop text.length)
  else none

end Flags

/-! ## Escapes -/

/-- What a backslash and the text behind it stand for. -/
inductive Escape where
  | literal (c : Char)
  | digits
  | border
deriving DecidableEq, Repr

def readHex (f : Flags) : Nat → Nat → List Char → Option (Nat × List Char)
  | 0, value, cs => some (value, cs)
  | _, _, [] => none
  | count + 1, value, c :: rest =>
    match Toml.hexValue? c with
    | none => none
    | some d => readHex f count (16 * value + d) (f.skip rest)

/-- Reads the code of a character; without Unicode two digits are a byte, which has to be ASCII. -/
def readCode (f : Flags) (count : Nat) (cs : List Char) : Option (Escape × List Char) := do
  let (n, rest) ← readHex f count 0 (f.skip cs)
  if n.isValidChar && (count ≠ 2 || f.isUnicode || n < 128) then some (.literal (.ofNat n), rest) else none

/-- Whether a backslash before a character takes its meaning away. -/
def isSign (c : Char) : Bool := c.toNat < 128 && !c.isAlphanum && c ≠ '<' && c ≠ '>'

def readEscape (f : Flags) : List Char → Option (Escape × List Char)
  | [] => none
  | c :: rest =>
    if isSign c then some (.literal c, rest)
    else match c with
      | 'x' => readCode f 2 rest
      | 'u' => readCode f 4 rest
      | 'U' => readCode f 8 rest
      | 'd' | 's' | 'w' => if f.isUnicode then none else some (.digits, rest)
      | 'a' => some (.literal '\x07', rest)
      | 'f' => some (.literal '\x0c', rest)
      | 'n' => some (.literal '\n', rest)
      | 'r' => some (.literal '\r', rest)
      | 't' => some (.literal '\t', rest)
      | 'v' => some (.literal '\x0b', rest)
      | 'A' | 'z' => some (.border, rest)
      | 'b' | 'B' | '<' | '>' => if f.isUnicode then none else some (.border, rest)
      | _ => none

/-! ## Classes -/

/-- How deep a list of things is nested, one of which stands for itself. -/
def joined : List Nat → Nat
  | [] => 0
  | [depth] => depth
  | depths => depths.foldl max 0 + 1

def Flags.allowsMember (f : Flags) (c : Char) : Bool :=
  if f.isUnicode then !f.eitherCase else c.toNat < 128

/-- Reads a member of a class: a character, or nothing for a class of its own. -/
def readMember (f : Flags) : List Char → Option (Option Char × List Char)
  | [] => none
  | '\\' :: rest =>
    match readEscape f rest with
    | some (.literal c, rest) => if f.allowsMember c then some (some c, rest) else none
    | some (.digits, rest) => some (none, rest)
    | _ => none
  | c :: rest => if f.allowsMember c then some (some c, rest) else none

/-- Whether a hyphen before a text means itself and no range. -/
def endsRange (f : Flags) (cs : List Char) : Bool :=
  (f.skip cs).head?.any fun c => c = ']' || c = '-'

def readRange (f : Flags) (cs : List Char) : Option (List Char) := do
  let (first, rest) ← readMember f cs
  match f.skip rest with
  | '-' :: rest' =>
    if endsRange f rest' then return '-' :: rest'
    let (last, rest) ← readMember f (f.skip rest')
    if (← first) ≤ (← last) then return rest
    none
  | rest => return rest

def classNames : List String :=
  ["alnum", "alpha", "ascii", "blank", "cntrl", "digit", "graph", "lower", "print", "punct", "space",
    "upper", "word", "xdigit"]

/-- Reads a named class behind its bracket: whether it is turned round, and what follows. -/
def readNamed? : List Char → Option (Bool × List Char)
  | ':' :: rest =>
    let (isNegated, rest) := if rest.head? = some '^' then (true, rest.drop 1) else (false, rest)
    let name := rest.takeWhile (· ≠ ':')
    match rest.drop name.length with
    | ':' :: ']' :: rest => if String.ofList name ∈ classNames then some (isNegated, rest) else none
    | _ => none
  | _ => none

/-- A class while it is read: how deep the part before the last operator is nested, and the members
behind it. -/
structure Class where
  left : Option Nat := none
  members : List Nat := []
deriving DecidableEq, Repr

namespace Class

def add (k : Class) (depth : Nat) : Class := { k with members := depth :: k.members }

def depth (k : Class) : Nat :=
  match k.left with
  | none => joined k.members
  | some d => max d (joined k.members) + 1

def operate (k : Class) : Class := { left := some k.depth }

/-- Reads hyphens that stand at the beginning and mean themselves. -/
def readHyphens (f : Flags) : Nat → Class → List Char → Class × List Char
  | fuel + 1, k, '-' :: rest => readHyphens f fuel (k.add 0) (f.skip rest)
  | _, k, cs => (k, cs)

/-- Reads what stands at the beginning: a sign that turns the class round, hyphens, and a closing bracket
that means itself. -/
def readStart (f : Flags) (cs : List Char) : Option (Class × List Char) := do
  let (isNegated, cs) := match f.skip cs with
    | '^' :: rest => (true, f.skip rest)
    | cs => (false, cs)
  if isNegated && !f.isUnicode then none
  let (k, rest) := match readHyphens f cs.length {} cs with
    | (⟨none, []⟩, ']' :: rest) => (({} : Class).add 0, f.skip rest)
    | (k, rest) => (k, rest)
  if rest = [] ∨ (k.members ≠ [] ∧ !f.allowsMember '-') then none
  return (k, rest)

def readRest (f : Flags) : Nat → Class → List Char → Option (Nat × List Char)
  | 0, _, _ => none
  | fuel + 1, k, cs =>
    match f.skip cs with
    | [] => none
    | ']' :: rest => some (k.depth + 1, rest)
    | '&' :: '&' :: rest | '-' :: '-' :: rest | '~' :: '~' :: rest => readRest f fuel k.operate rest
    | '[' :: rest =>
      match readNamed? rest with
      | some (isNegated, rest) =>
        if (if f.isUnicode then f.eitherCase else isNegated) then none
        else readRest f fuel (k.add 0) rest
      | none => do
        let (inner, rest) ← readStart f rest
        let (depth, rest) ← readRest f fuel inner rest
        readRest f fuel (k.add depth) rest
    | cs => do readRest f fuel (k.add 0) (← readRange f cs)

/-- Reads a class behind its opening bracket: how deep it is nested, and what follows. -/
def read (f : Flags) (cs : List Char) : Option (Nat × List Char) := do
  let (k, rest) ← readStart f cs
  readRest f (cs.length + 1) k rest

end Class

/-! ## Groups -/

/-- A part of a sequence. Flags cannot be repeated; of all else it is known how deep it is nested. -/
inductive Part where
  | flags
  | item (depth : Nat)
deriving DecidableEq, Repr

def Part.depth : Part → Nat
  | flags => 0
  | item depth => depth

/-- A group while it is read, or the whole pattern: the depths of the alternatives before, the parts of
the last one in reverse order, and the flags that hold behind it. -/
structure Group where
  alternatives : List Nat := []
  parts : List Part := []
  flagsBehind : Flags := {}
deriving DecidableEq, Repr

namespace Group

def add (g : Group) (p : Part) : Group := { g with parts := p :: g.parts }

def alternate (g : Group) : Group :=
  { g with alternatives := joined (g.parts.map Part.depth) :: g.alternatives, parts := [] }

def depth (g : Group) : Nat :=
  if g.alternatives = [] then joined (g.parts.map Part.depth)
  else (g.alternate.alternatives.foldl max 0) + 1

def repeatLast (g : Group) : Option Group :=
  match g.parts with
  | .item depth :: before => some { g with parts := .item (depth + 1) :: before }
  | _ => none

end Group

/-! ## Patterns -/

/-- A pattern while it is read: the groups that are open around the innermost one, this one, the flags
that hold and the names that groups have been given. -/
structure Reading where
  around : List Group := []
  inner : Group := {}
  flags : Flags := {}
  names : List (List Char) := []
deriving DecidableEq, Repr

namespace Reading

def add (r : Reading) (p : Part) : Reading := { r with inner := r.inner.add p }

def enter (r : Reading) (flags : Flags) : Reading :=
  { r with around := r.inner :: r.around, inner := { flagsBehind := r.flags }, flags }

def leave (r : Reading) : Option Reading :=
  match r.around with
  | [] => none
  | outer :: around =>
    some { r with around, inner := outer.add (.item (r.inner.depth + 1)), flags := r.inner.flagsBehind }

def isName : List Char → Bool
  | [] => false
  | first :: rest =>
    (first = '_' || Unicode.isAlphabetic first) &&
      rest.all fun c => c ∈ ['_', '.', '[', ']'] || Unicode.isAlphanumeric c

def enterNamed (r : Reading) (cs : List Char) : Option (Reading × List Char) :=
  let name := cs.takeWhile (· ≠ '>')
  if isName name && r.names.all (· ≠ name) && name.length < cs.length then
    some ({ r.enter r.flags with names := name :: r.names }, cs.drop (name.length + 1))
  else none

/-- Reads what follows the opening bracket of a group. Flags alone make no group. -/
def readGroup (r : Reading) (cs : List Char) : Option (Reading × List Char) :=
  match cs with
  | '?' :: 'P' :: '<' :: rest | '?' :: '<' :: rest => r.enterNamed rest
  | '?' :: rest =>
    match r.flags.read rest with
    | some (flags, ':' :: behind) => some (r.enter flags, behind)
    | some (flags, ')' :: behind) =>
      if rest.head? = some ')' then none else some ({ r with flags }.add .flags, behind)
    | _ => none
  | _ => some (r.enter r.flags, cs)

def allowsLiteral (r : Reading) : Bool := !(r.flags.isUnicode && r.flags.eitherCase)

/-- Reads one sign of a pattern, or something that is written with several characters. -/
def step (r : Reading) : List Char → Option (Reading × List Char)
  | [] => none
  | '(' :: rest => r.readGroup (r.flags.skip rest)
  | ')' :: rest => r.leave.map (·, rest)
  | '|' :: rest => some ({ r with inner := r.inner.alternate }, rest)
  | '[' :: rest => (Class.read r.flags rest).map fun (depth, rest) => (r.add (.item depth), rest)
  | '\x7b' :: _ => none
  | '\\' :: rest =>
    match readEscape r.flags rest with
    | some (.literal _, rest) => if r.allowsLiteral then some (r.add (.item 0), rest) else none
    | some (_, rest) => some (r.add (.item 0), rest)
    | none => none
  | c :: rest =>
    if c ∈ ['?', '*', '+'] then
      r.inner.repeatLast.map fun inner =>
        ({ r with inner }, if rest.head? = some '?' then rest.drop 1 else rest)
    else if c = '.' then if r.flags.isUnicode then some (r.add (.item 0), rest) else none
    else if c = '^' ∨ c = '$' ∨ r.allowsLiteral then some (r.add (.item 0), rest)
    else none

def run : Nat → Reading → List Char → Option Reading
  | 0, _, _ => none
  | fuel + 1, r, cs =>
    match r.flags.skip cs with
    | [] => some r
    | cs => do
      let (r, rest) ← r.step cs
      run fuel r rest

end Reading

def maxDepth : Nat := 250

/-- Whether a text is a regular expression. -/
def isRegular (cs : List Char) : Bool :=
  match Reading.run (cs.length + 1) {} cs with
  | none => false
  | some r => r.around = [] && r.inner.depth ≤ maxDepth

/-! ## Values -/

/-- Whether a text is a decimal number, infinite or no number at all. -/
def isNumber (cs : List Char) : Bool :=
  let unsigned := (Decimal.splitSign cs).2
  let (mantissa, exponent) := Decimal.splitExponent unsigned
  let areDigits (ds : List Char) : Bool := (Decimal.digits? ds).isSome
  Text.lowercase (.ofList unsigned) ∈ ["inf", "infinity", "nan"] ||
    (areDigits (mantissa.erase '.') && exponent.all fun e => areDigits e.2)

/-- Whether a filter can ask for a value. Truth values are regular expressions too. -/
def isValue (cs : List Char) : Bool := isNumber cs || isRegular cs

end RouteServer.Log.Pattern
