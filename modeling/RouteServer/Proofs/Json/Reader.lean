import RouteServer.Address.Parser
import RouteServer.Json.Value
import RouteServer.Text.Decimal

/-! # Reading JSON

The reader takes every JSON text, also those that are never written here: with white space, with all escapes
and with numbers of every form. It reads one character at a time. Its state holds the scalar that is not
complete yet, and the arrays and objects that are open.
-/

namespace RouteServer.Json

/-! ## Numbers and literals -/

/-- A whole number without needless zeros. -/
def whole? (cs : List Char) : Option Nat :=
  if cs.head? = some '0' ∧ cs ≠ ['0'] then none else Decimal.digits? cs

/-- The digits behind a point, if there is one, and what follows. -/
def fraction? : List Char → Option (List Char × List Char)
  | '.' :: rest =>
    let digits := rest.takeWhile Char.isDigit
    if digits = [] then none else some (digits, rest.dropWhile Char.isDigit)
  | rest => some ([], rest)

/-- The power of ten at the end of a number; a number may do without one. -/
def exponent? : List Char → Option Int
  | [] => some 0
  | c :: rest =>
    if c = 'e' ∨ c = 'E' then
      match rest with
      | '-' :: digits => (Decimal.digits? digits).map fun n => -(n : Int)
      | '+' :: digits => (Decimal.digits? digits).map fun n => (n : Int)
      | digits => (Decimal.digits? digits).map fun n => (n : Int)
    else none

/-- A number without a sign. Whole numbers may have any size. -/
def unsigned? (cs : List Char) : Option (Nat ⊕ Float) := do
  let digits := cs.takeWhile Char.isDigit
  let rest := cs.dropWhile Char.isDigit
  let n ← whole? digits
  if rest = [] then return .inl n
  let (fraction, rest) ← fraction? rest
  let scale := (← exponent? rest) - fraction.length
  return .inr (Float.ofScientific (Nat.ofDigitChars 10 (digits ++ fraction) 0) (scale < 0) scale.natAbs)

def number? : List Char → Option Value
  | '-' :: rest => (unsigned? rest).map fun
    | .inl n => .integer (-(n : Int))
    | .inr x => .float (-x)
  | cs => (unsigned? cs).map fun
    | .inl n => .integer n
    | .inr x => .float x

/-- What stands without quotes: a literal or a number. -/
def bare? : List Char → Option Value
  | ['n', 'u', 'l', 'l'] => some .null
  | ['t', 'r', 'u', 'e'] => some (.bool true)
  | ['f', 'a', 'l', 's', 'e'] => some (.bool false)
  | cs => number? cs

/-! ## Strings -/

/-- The character that a backslash and another character stand for. -/
def shortEscape? : Char → Option Char
  | '"' => some '"'
  | '\\' => some '\\'
  | '/' => some '/'
  | 'b' => some '\x08'
  | 'f' => some '\x0c'
  | 'n' => some '\n'
  | 'r' => some '\r'
  | 't' => some '\t'
  | _ => none

/-- The inside of a string up to some place, its characters in reverse order. The first half of a surrogate
pair waits for the second. -/
structure Inside where
  chars : List Char := []
  high : Option Nat := none

namespace Inside

def char (s : Inside) (c : Char) : Option Inside :=
  if s.high.isSome then none else some { s with chars := c :: s.chars }

/-- Takes an escaped code unit: a character, or half of a surrogate pair. -/
def unit (s : Inside) (n : Nat) : Option Inside :=
  match s.high with
  | none =>
    if 0xD800 ≤ n ∧ n < 0xDC00 then some { s with high := some n }
    else if 0xDC00 ≤ n ∧ n < 0xE000 then none
    else s.char (.ofNat n)
  | some high =>
    if 0xDC00 ≤ n ∧ n < 0xE000 then
      some { chars := .ofNat (0x10000 + 0x400 * (high - 0xD800) + (n - 0xDC00)) :: s.chars }
    else none

def close (s : Inside) : Option String :=
  if s.high.isSome then none else some (.ofList s.chars.reverse)

end Inside

/-! ## Arrays and objects -/

inductive Lexeme where
  | openArray
  | closeArray
  | openObject
  | closeObject
  | comma
  | colon
  | scalar (v : Value)

def Lexeme.ofMark? : Char → Option Lexeme
  | '[' => some openArray
  | ']' => some closeArray
  | '\x7b' => some openObject
  | '\x7d' => some closeObject
  | ',' => some comma
  | ':' => some colon
  | _ => none

/-- Where a value belongs: behind the items of an array, or to a name behind the members of an object. -/
inductive Frame where
  | item (items : List Value)
  | member (members : List (String × Value)) (name : String)

inductive Place where
  | value
  | firstItem
  | nextItem (items : List Value)
  | firstName
  | name (members : List (String × Value))
  | colon (members : List (String × Value)) (name : String)
  | nextMember (members : List (String × Value))
  | complete (v : Value)

/-- What is open, innermost first, and what may follow. -/
structure Context where
  frames : List Frame := []
  place : Place := .value

namespace Context

/-- Puts a complete value where it belongs. -/
def give (v : Value) : List Frame → Context
  | [] => { place := .complete v }
  | .item items :: outer => ⟨outer, .nextItem (items ++ [v])⟩
  | .member members name :: outer => ⟨outer, .nextMember (members ++ [(name, v)])⟩

/-- Reads the first lexeme of a value. -/
def first (frames : List Frame) : Lexeme → Option Context
  | .scalar v => some (give v frames)
  | .openArray => some ⟨frames, .firstItem⟩
  | .openObject => some ⟨frames, .firstName⟩
  | _ => none

def step (ctx : Context) (lexeme : Lexeme) : Option Context :=
  match ctx.place, lexeme with
  | .value, lexeme => first ctx.frames lexeme
  | .firstItem, .closeArray => some (give (.array []) ctx.frames)
  | .firstItem, lexeme => first (.item [] :: ctx.frames) lexeme
  | .nextItem items, .comma => some ⟨.item items :: ctx.frames, .value⟩
  | .nextItem items, .closeArray => some (give (.array items) ctx.frames)
  | .firstName, .closeObject => some (give (.object []) ctx.frames)
  | .firstName, .scalar (.string name) => some { ctx with place := .colon [] name }
  | .name members, .scalar (.string name) => some { ctx with place := .colon members name }
  | .colon members name, .colon => some ⟨.member members name :: ctx.frames, .value⟩
  | .nextMember members, .comma => some { ctx with place := .name members }
  | .nextMember members, .closeObject => some (give (.object members) ctx.frames)
  | _, _ => none

end Context

/-! ## Characters -/

/-- What the reader is in the middle of. -/
inductive Mode where
  | gap
  | bare (chars : List Char)
  | quoted (s : Inside)
  | escaped (s : Inside)
  | unit (s : Inside) (digits : List Nat)

structure State where
  mode : Mode := .gap
  context : Context := {}

def isBlank (c : Char) : Bool := c = ' ' ∨ c = '\t' ∨ c = '\n' ∨ c = '\r'

/-- The characters that end a literal or a number. -/
def endsBare (c : Char) : Bool := isBlank c || c = '"' || (Lexeme.ofMark? c).isSome

/-- Reads a character that does not belong to a scalar before it. -/
def Context.begin (ctx : Context) (c : Char) : Option State :=
  if isBlank c then some ⟨.gap, ctx⟩
  else if c = '"' then some ⟨.quoted {}, ctx⟩
  else match Lexeme.ofMark? c with
    | some mark => (ctx.step mark).map (State.mk .gap)
    | none => some ⟨.bare [c], ctx⟩

namespace State

def step (st : State) (c : Char) : Option State :=
  match st.mode with
  | .gap => st.context.begin c
  | .bare chars =>
    if endsBare c then do
      let v ← bare? chars.reverse
      (← st.context.step (.scalar v)).begin c
    else some { st with mode := .bare (c :: chars) }
  | .quoted s =>
    if c = '\\' then some { st with mode := .escaped s }
    else if c = '"' then do
      let text ← s.close
      return ⟨.gap, ← st.context.step (.scalar (.string text))⟩
    else if c.toNat < 32 then none
    else do return { st with mode := .quoted (← s.char c) }
  | .escaped s =>
    if c = 'u' then some { st with mode := .unit s [] }
    else do return { st with mode := .quoted (← s.char (← shortEscape? c)) }
  | .unit s digits => do
    let digits := digits ++ [← IPv6.hexDigit? c]
    if digits.length < 4 then return { st with mode := .unit s digits }
    return { st with mode := .quoted (← s.unit (digits.foldl (fun n d => 16 * n + d) 0)) }

/-- The value at the end of the text. -/
def finish (st : State) : Option Value := do
  let ctx ←
    match st.mode with
    | .gap => some st.context
    | .bare chars => st.context.step (.scalar (← bare? chars.reverse))
    | _ => none
  match ctx.place with
  | .complete v => some v
  | _ => none

def run (st : State) : List Char → Option Value
  | [] => st.finish
  | c :: rest => do (← st.step c).run rest

end State

def read (text : String) : Option Value := State.run {} text.toList

end RouteServer.Json
