import RouteServer.Text.Blank

/-! # Tokens of the neighbor configuration

The text is made of words, quoted strings and five punctuation marks. White space separates words, and
`#` starts a comment that runs to the end of the line. Each token knows where it starts.

The scanner reads one character at a time. Its mode holds the word or the string that is not complete
yet, so that scanning a text in two parts is the same as scanning it at once.
-/

namespace RouteServer.Config

/-! ## Tokens -/

/-- A place in the text: line and column, both counted from one, columns in characters. -/
structure Location where
  line : Nat
  column : Nat
deriving DecidableEq, Repr

namespace Location

def start : Location := ⟨1, 1⟩

def render (here : Location) : String :=
  "line " ++ toString here.line ++ ", column " ++ toString here.column

def advance (here : Location) (c : Char) : Location :=
  if c = '\n' then ⟨here.line + 1, 1⟩ else ⟨here.line, here.column + 1⟩

end Location

inductive TokenKind where
  | word (text : String)
  | quoted (text : String)
  | openBrace
  | closeBrace
  | openBracket
  | closeBracket
  | semicolon
deriving DecidableEq, Repr

namespace TokenKind

def ofMark? : Char → Option TokenKind
  | '\x7b' => some openBrace
  | '\x7d' => some closeBrace
  | '[' => some openBracket
  | ']' => some closeBracket
  | ';' => some semicolon
  | _ => none

def render : TokenKind → String
  | word text => text
  | quoted text => "\"" ++ text ++ "\""
  | openBrace => "\x7b"
  | closeBrace => "\x7d"
  | openBracket => "["
  | closeBracket => "]"
  | semicolon => ";"

end TokenKind

structure Token where
  kind : TokenKind
  location : Location
deriving DecidableEq, Repr

/-! ## Scanning -/

/-- A quoted string that does not end on its line, by the place of its opening quote. -/
structure UnterminatedString where
  location : Location
deriving DecidableEq, Repr

/-- What the scanner is in the middle of. The characters read so far stand in reverse order. -/
inductive ScanMode where
  | gap
  | comment
  | word (start : Location) (chars : List Char)
  | quoted (start : Location) (chars : List Char)
deriving DecidableEq, Repr

namespace ScanMode

/-- Reads a character that begins something: the token it completes and the mode it leads to. -/
def begin (here : Location) (c : Char) : List Token × ScanMode :=
  if c = '#' then ([], comment)
  else if Text.isBlank c then ([], gap)
  else if c = '"' then ([], quoted here [])
  else match TokenKind.ofMark? c with
    | some mark => ([⟨mark, here⟩], gap)
    | none => ([], word here [c])

/-- The characters that end a word: white space, punctuation, a quote or a comment. -/
def endsWord (c : Char) : Bool :=
  Text.isBlank c || c == '#' || c == '"' || (TokenKind.ofMark? c).isSome

def step (here : Location) (c : Char) : ScanMode → Except UnterminatedString (List Token × ScanMode)
  | gap => .ok (begin here c)
  | comment => .ok ([], if c = '\n' then gap else comment)
  | word start chars =>
    if endsWord c then
      let (tokens, next) := begin here c
      .ok (⟨.word (.ofList chars.reverse), start⟩ :: tokens, next)
    else .ok ([], word start (c :: chars))
  | quoted start chars =>
    if c = '"' then .ok ([⟨.quoted (.ofList chars.reverse), start⟩], gap)
    else if c = '\n' then .error ⟨start⟩
    else .ok ([], quoted start (c :: chars))

def finish : ScanMode → Except UnterminatedString (List Token)
  | word start chars => .ok [⟨.word (.ofList chars.reverse), start⟩]
  | quoted start _ => .error ⟨start⟩
  | _ => .ok []

/-- The tokens of a text that is read from `here` on. -/
def scan (mode : ScanMode) (here : Location) : List Char → Except UnterminatedString (List Token)
  | [] => mode.finish
  | c :: rest => do
    let (tokens, next) ← mode.step here c
    let more ← next.scan (here.advance c) rest
    return tokens ++ more

end ScanMode

def tokenize (text : String) : Except UnterminatedString (List Token) :=
  ScanMode.gap.scan .start text.toList

end RouteServer.Config
