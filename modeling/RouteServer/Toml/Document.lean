import RouteServer.Toml.Node
import RouteServer.Toml.Scalar

/-! # Configuration files

A document sets keys to values, line by line; headers in brackets say which table the following keys
belong to. Text that is not such a document is refused without an explanation.
-/

namespace RouteServer.Toml

/-! ## White space -/

def skipBlank (inComment : Bool) : List Char → List Char
  | [] => []
  | c :: rest =>
    if c = '\n' || (c = '\r' && rest.head? = some '\n') then skipBlank false rest
    else if inComment then if isText c then skipBlank true rest else c :: rest
    else if isSpace c then skipBlank false rest
    else if c = '#' then skipBlank true rest
    else c :: rest

/-- What follows the spaces and the comment at the end of a line, if nothing else is there. -/
def endLine (cs : List Char) : Option (List Char) :=
  let rest := match skipSpaces cs with
    | '#' :: rest => rest.dropWhile isText
    | rest => rest
  match rest with
  | [] => some []
  | '\n' :: rest => some rest
  | '\r' :: '\n' :: rest => some rest
  | _ => none

/-! ## Keys -/

def isKeyChar (c : Char) : Bool := c.isAlphanum || c = '_' || c = '-'

def readName (cs : List Char) : Option (String × List Char) :=
  match cs with
  | '"' :: rest => (basic rest).map fun (s, r) => (.ofList s, r)
  | '\'' :: rest => (literal rest).map fun (s, r) => (.ofList s, r)
  | _ =>
    let run := cs.takeWhile isKeyChar
    if run = [] then none else some (.ofList run, cs.dropWhile isKeyChar)

/-- Reads names with dots between them; blanks around names do not count. -/
def readNames : Nat → List Char → Option (List String × List Char)
  | 0, _ => none
  | n + 1, cs => do
    let (name, rest) ← readName (skipSpaces cs)
    match skipSpaces rest with
    | '.' :: rest =>
      let (names, rest) ← readNames n rest
      return (name :: names, rest)
    | rest => return ([name], rest)

/-- The names that a key may have, and the lists and tables of one value that may be open at a time. -/
def maxDepth : Nat := 79

def readKey (n : Nat) (cs : List Char) : Option (List String × List Char) :=
  (readNames n cs).filter fun (names, _) => names.length ≤ maxDepth

def splitKey (names : List String) : List String × String := (names.dropLast, names.getLastD "")

/-! ## Values -/

mutual

def readValue (depth : Nat) : Nat → List Char → Option (Json.Value × List Char)
  | 0, _ => none
  | n + 1, cs =>
    match cs with
    | '[' :: rest =>
      if maxDepth ≤ depth then none else readItems (depth + 1) n (skipBlank false rest) []
    | '\x7b' :: rest =>
      if maxDepth ≤ depth then none
      else match skipSpaces rest with
        | '\x7d' :: rest => some (.object [], rest)
        | rest => readPairs (depth + 1) n rest []
    | '"' :: _ | '\'' :: _ => (string? cs).map fun (s, r) => (.string (.ofList s), r)
    | _ => scalar? cs

/-- Reads the items of a list up to its closing bracket; a comma may follow the last one. -/
def readItems (depth : Nat) : Nat → List Char → List Json.Value → Option (Json.Value × List Char)
  | 0, _, _ => none
  | n + 1, cs, items =>
    match cs with
    | ']' :: rest => some (.array items, rest)
    | _ => do
      let (v, rest) ← readValue depth n cs
      match skipBlank false rest with
      | ',' :: rest => readItems depth n (skipBlank false rest) (items ++ [v])
      | ']' :: rest => return (.array (items ++ [v]), rest)
      | _ => none

def readPairs (depth : Nat) : Nat → List Char → Members → Option (Json.Value × List Char)
  | 0, _, _ => none
  | n + 1, cs, members => do
    let (names, rest) ← readKey n cs
    match rest with
    | '=' :: rest =>
      let (v, rest) ← readValue depth n (skipSpaces rest)
      let (path, name) := splitKey names
      let members ← assign .header path name v members
      match skipSpaces rest with
      | ',' :: rest => readPairs depth n rest members
      | '\x7d' :: rest => return (.object (membersToValues members), rest)
      | _ => none
    | _ => none

end

/-! ## Documents -/

/-- Reads the lines of a document into the tables that stand under `members`. -/
def readLines : Nat → List String → Members → List Char → Option Members
  | 0, _, _, _ => none
  | n + 1, current, members, cs =>
    match skipBlank false cs with
    | [] => some members
    | '[' :: '[' :: rest => do
      let (names, rest) ← readKey n rest
      match rest with
      | ']' :: ']' :: rest =>
        let (path, name) := splitKey names
        readLines n names (← openItem path name members) (← endLine rest)
      | _ => none
    | '[' :: rest => do
      let (names, rest) ← readKey n rest
      match rest with
      | ']' :: rest =>
        let (path, name) := splitKey names
        readLines n names (← openTable path name members) (← endLine rest)
      | _ => none
    | rest => do
      let (names, rest) ← readKey n rest
      match rest with
      | '=' :: rest =>
        let (v, rest) ← readValue 0 n (skipSpaces rest)
        let (path, name) := splitKey names
        readLines n current (← assignIn current path name v members) (← endLine rest)
      | _ => none

def parse? (text : String) : Option Json.Value :=
  let cs := match text.toList with
    | '\uFEFF' :: rest => rest
    | cs => cs
  (readLines (cs.length + 2) [] [] cs).map fun members => .object (membersToValues members)

end RouteServer.Toml
