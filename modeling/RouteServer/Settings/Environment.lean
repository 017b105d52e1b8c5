import RouteServer.Decimal.Fraction
import RouteServer.Json.Value
import RouteServer.Keyed
import RouteServer.Text.Blank
import RouteServer.Toml.Text

/-! # Settings in the environment

Variables whose names begin with `BGPD_` set the setting of the same name. Their text is read freely: as
a truth value, a number, a list or a table if it looks like one, and else as it is.
-/

namespace RouteServer

/-- The variables of a process, and the number of its user. -/
structure Environment where
  values : Keyed String String := {}
  user : Nat := 0

def Environment.get? (e : Environment) (name : String) : Option String := e.values.get? name

namespace Environment

/-! ## Values -/

def isAsciiBlank (c : Char) : Bool := c ∈ [' ', '\t', '\n', '\x0c', '\r']

def skipBlank (cs : List Char) : List Char := cs.dropWhile isAsciiBlank

def isSeparator (c : Char) : Bool := c ∈ [',', '\x7b', '\x7d', '[', ']']

/-- A run of text as a number, if it is one, and else as a string. -/
def readPlain (run : List Char) : Json.Value :=
  let text := Text.trimChars run
  match if '.' ∈ text then Decimal.readPointed? text else none with
  | some d => .ofFloat d.toFloat
  | none =>
    match Decimal.below? UInt64.size text with
    | some n => .integer n
    | none =>
      match text with
      | '-' :: digits =>
        match (Decimal.digits? digits).filter (2 * · ≤ UInt64.size) with
        | some n => .integer (-(n : Int))
        | none => .string (.ofList text)
      | _ => .string (.ofList text)

def isNameChar (c : Char) : Bool := c.isAlphanum || c = '_' || c = '-'

def readName (cs : List Char) : Option (String × List Char) :=
  match cs with
  | '"' :: rest => (Toml.basic rest).map fun (s, r) => (.ofList s, r)
  | _ =>
    let run := cs.takeWhile isNameChar
    if run = [] then none else some (.ofList run, cs.dropWhile isNameChar)

/-- Gives a member a value; a later value replaces an earlier one. -/
def setMember (name : String) (v : Json.Value) (members : List (String × Json.Value)) :
    List (String × Json.Value) :=
  (members.filter fun (other, _) => other ≠ name) ++ [(name, v)]

mutual

def readValue : Nat → List Char → Option (Json.Value × List Char)
  | 0, _ => none
  | n + 1, cs =>
    let cs := skipBlank cs
    let result : Option (Json.Value × List Char) := match cs with
      | 't' :: 'r' :: 'u' :: 'e' :: rest => some (.bool true, rest)
      | 'f' :: 'a' :: 'l' :: 's' :: 'e' :: rest => some (.bool false, rest)
      | '\x7b' :: rest => readMembers n rest []
      | '[' :: rest => readItems n rest []
      | '"' :: rest => (Toml.basic rest).map fun (s, r) => (.string (.ofList s), r)
      | '\'' :: rest =>
        match rest with
        | c :: '\'' :: rest => some (.string (.singleton c), rest)
        | _ => none
      | _ => some (readPlain (cs.takeWhile (!isSeparator ·)), cs.dropWhile (!isSeparator ·))
    result.map fun (v, rest) => (v, skipBlank rest)

/-- Reads the items of a list up to its closing bracket; a comma may follow the last one. -/
def readItems : Nat → List Char → List Json.Value → Option (Json.Value × List Char)
  | 0, _, _ => none
  | n + 1, cs, items =>
    match cs with
    | ']' :: rest => some (.array items, rest)
    | _ => do
      let (v, rest) ← readValue n cs
      match rest with
      | ',' :: rest => readItems n rest (items ++ [v])
      | ']' :: rest => return (.array (items ++ [v]), rest)
      | _ => none

def readMembers : Nat → List Char → List (String × Json.Value) → Option (Json.Value × List Char)
  | 0, _, _ => none
  | n + 1, cs, members =>
    match cs with
    | '\x7d' :: rest => some (.object members, rest)
    | _ => do
      let (name, rest) ← readName (skipBlank cs)
      match skipBlank rest with
      | '=' :: rest =>
        let (v, rest) ← readValue n rest
        let members := setMember name v members
        match rest with
        | ',' :: rest => readMembers n rest members
        | '\x7d' :: rest => return (.object members, rest)
        | _ => none
      | _ => none

end

/-- Whether a text is a list of words between commas: it holds a comma and does not begin like a value
of another kind. -/
def isWordList (cs : List Char) : Bool :=
  ',' ∈ cs && (cs.head?.all fun c => c ∉ ['[', '\x7b', '"', '\''])

/-- The value of a variable's text, of which blanks at the ends do not count. A truth value alone may be
written in large and small letters. -/
def valueOf (text : String) : Json.Value :=
  let text := Text.trim text
  if isWordList text.toList then
    .array ((Text.splitOnChar ',' text).map fun w => .string (Text.trim w))
  else if Text.lowercase text = "true" then .bool true
  else if Text.lowercase text = "false" then .bool false
  else match readValue (2 * text.length + 2) text.toList with
    | some (v, []) => v
    | _ => .string text

/-! ## Names -/

/-- The names that two underscores, or a point, part. -/
def splitName : List Char → List (List Char)
  | '_' :: '_' :: rest => [] :: splitName rest
  | '.' :: rest => [] :: splitName rest
  | c :: rest =>
    match splitName rest with
    | [] => [[c]]
    | name :: names => (c :: name) :: names
  | [] => [[]]

/-- The names that a variable sets a value under, if it is a setting. Blanks around the name and behind
its beginning do not count; no name may be empty. -/
def settingName? (name : String) : Option (List String) :=
  let chars := (Text.trimChars name.toList).map Char.toLower
  let names := splitName (Text.trimChars (chars.drop 5))
  if "bgpd_".toList.isPrefixOf chars && [] ∉ names then some (names.map .ofList) else none

def nest (names : List String) (v : Json.Value) : Json.Value :=
  names.foldr (fun name v => .object [(name, v)]) v

end Environment

end RouteServer
