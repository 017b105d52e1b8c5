/-! # Strings of configuration files

Strings stand in double quotes, with escapes, or in single quotes, without any. Three quotes begin a
string that may run over several lines. Each reader starts behind the opening quotes and returns the
characters and the rest of the text.
-/

namespace RouteServer.Toml

def isText (c : Char) : Bool := c = '\t' || (0x20 ≤ c.toNat && c.toNat ≠ 0x7F)

def isSpace (c : Char) : Bool := c = ' ' || c = '\t'

def skipSpaces (cs : List Char) : List Char := cs.dropWhile isSpace

def atLineEnd : List Char → Bool
  | '\n' :: _ => true
  | '\r' :: '\n' :: _ => true
  | _ => false

/-! ## Escapes -/

def hexValue? (c : Char) : Option Nat :=
  let n := c.toNat
  if c.isDigit then some (n - 48)
  else if 'a' ≤ c ∧ c ≤ 'f' then some (n - 87)
  else if 'A' ≤ c ∧ c ≤ 'F' then some (n - 55)
  else none

def charOfHex? (digits : List Char) : Option Char := do
  let n := (← digits.mapM hexValue?).foldl (fun n d => 16 * n + d) 0
  if Nat.isValidChar n then some (Char.ofNat n) else none

def escape? : Char → Option Char
  | 'b' => some '\x08'
  | 't' => some '\t'
  | 'n' => some '\n'
  | 'f' => some '\x0c'
  | 'r' => some '\r'
  | '"' => some '"'
  | '\\' => some '\\'
  | _ => none

def readEscape : List Char → Option (Char × List Char)
  | 'u' :: rest => (charOfHex? (rest.take 4)).bind fun c =>
      if rest.length < 4 then none else some (c, rest.drop 4)
  | 'U' :: rest => (charOfHex? (rest.take 8)).bind fun c =>
      if rest.length < 8 then none else some (c, rest.drop 8)
  | e :: rest => (escape? e).map (·, rest)
  | [] => none

theorem readEscape_shorter {cs rest : List Char} {c : Char} (h : readEscape cs = some (c, rest)) :
    rest.length < cs.length := by
  unfold readEscape at h
  split at h
  · simp only [Option.bind_eq_some_iff] at h
    obtain ⟨d, -, hd⟩ := h
    split at hd
    · simp at hd
    · simp only [Option.some.injEq, Prod.mk.injEq] at hd
      obtain ⟨-, rfl⟩ := hd
      simp only [List.length_cons, List.length_drop]
      omega
  · simp only [Option.bind_eq_some_iff] at h
    obtain ⟨d, -, hd⟩ := h
    split at hd
    · simp at hd
    · simp only [Option.some.injEq, Prod.mk.injEq] at hd
      obtain ⟨-, rfl⟩ := hd
      simp only [List.length_cons, List.length_drop]
      omega
  · simp only [Option.map_eq_some_iff, Prod.mk.injEq] at h
    obtain ⟨d, -, -, rfl⟩ := h
    simp
  · simp at h

/-! ## Strings of one line -/

def basic (cs : List Char) : Option (List Char × List Char) :=
  match cs with
  | [] => none
  | '"' :: rest => some ([], rest)
  | '\\' :: rest =>
    match h : readEscape rest with
    | none => none
    | some (c, rest') =>
      have := readEscape_shorter h
      (basic rest').map fun (s, r) => (c :: s, r)
  | c :: rest => if isText c then (basic rest).map fun (s, r) => (c :: s, r) else none
termination_by cs.length

def literal (cs : List Char) : Option (List Char × List Char) :=
  match cs with
  | [] => none
  | '\'' :: rest => some ([], rest)
  | c :: rest => if isText c then (literal rest).map fun (s, r) => (c :: s, r) else none

/-! ## Strings of several lines -/

/-- The line break right behind the opening quotes does not count. -/
def dropFirstBreak : List Char → List Char
  | '\n' :: rest => rest
  | '\r' :: '\n' :: rest => rest
  | cs => cs

/-- Reads to three double quotes; up to two more before them belong to the string. While `folding`,
blanks and line breaks are dropped. -/
def multiBasic (folding : Bool) (cs : List Char) : Option (List Char × List Char) :=
  match cs with
  | [] => none
  | '"' :: '"' :: '"' :: '"' :: '"' :: rest => some (['"', '"'], rest)
  | '"' :: '"' :: '"' :: '"' :: rest => some (['"'], rest)
  | '"' :: '"' :: '"' :: rest => some ([], rest)
  | '\\' :: rest =>
    if atLineEnd (skipSpaces rest) then multiBasic true rest
    else match h : readEscape rest with
      | none => none
      | some (c, rest') =>
        have := readEscape_shorter h
        (multiBasic false rest').map fun (s, r) => (c :: s, r)
  | '\r' :: '\n' :: rest =>
    if folding then multiBasic true rest
    else (multiBasic false rest).map fun (s, r) => ('\n' :: s, r)
  | c :: rest =>
    if folding && (isSpace c || c = '\n') then multiBasic true rest
    else if isText c || c = '\n' then (multiBasic false rest).map fun (s, r) => (c :: s, r)
    else none
termination_by cs.length

/-- Reads to three single quotes; up to two more before them belong to the string. -/
def multiLiteral (cs : List Char) : Option (List Char × List Char) :=
  match cs with
  | [] => none
  | '\'' :: '\'' :: '\'' :: '\'' :: '\'' :: rest => some (['\'', '\''], rest)
  | '\'' :: '\'' :: '\'' :: '\'' :: rest => some (['\''], rest)
  | '\'' :: '\'' :: '\'' :: rest => some ([], rest)
  | '\r' :: '\n' :: rest => (multiLiteral rest).map fun (s, r) => ('\n' :: s, r)
  | c :: rest =>
    if isText c || c = '\n' then (multiLiteral rest).map fun (s, r) => (c :: s, r) else none

def string? (cs : List Char) : Option (List Char × List Char) :=
  match cs with
  | '"' :: '"' :: '"' :: rest => multiBasic false (dropFirstBreak rest)
  | '\'' :: '\'' :: '\'' :: rest => multiLiteral (dropFirstBreak rest)
  | '"' :: rest => basic rest
  | '\'' :: rest => literal rest
  | _ => none

end RouteServer.Toml
