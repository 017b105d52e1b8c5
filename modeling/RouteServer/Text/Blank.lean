/-! # White space, words and lines

The characters that separate words, and the ways in which text is cut up: into words at runs of white
space, into lines at line feeds, and into pieces at any other character. The only change of case is that
of ASCII letters.
-/

namespace RouteServer.Text

/-! ## White space -/

/-- White space in the sense of the Unicode property `White_Space`. -/
def isBlank (c : Char) : Bool :=
  let n := c.toNat
  (9 ≤ n && n ≤ 13) || n == 0x20 || n == 0x85 || n == 0xA0 || n == 0x1680 ||
    (0x2000 ≤ n && n ≤ 0x200A) || n == 0x2028 || n == 0x2029 || n == 0x202F || n == 0x205F ||
    n == 0x3000

def trimStart (cs : List Char) : List Char := cs.dropWhile isBlank

def dropIndent (line : String) : String := .ofList (trimStart line.toList)

def trimEnd (cs : List Char) : List Char := (cs.reverse.dropWhile isBlank).reverse

def trimChars (cs : List Char) : List Char := trimEnd (trimStart cs)

def trim (text : String) : String := .ofList (trimChars text.toList)

/-! ## Case -/

/-- The text in which the letters of ASCII are small. -/
def lowercase (text : String) : String := .ofList (text.toList.map Char.toLower)

/-! ## Words -/

def wordChars (cs : List Char) : List (List Char) :=
  (cs.splitOnP isBlank).filter (· ≠ [])

def words (text : String) : List String := (wordChars text.toList).map .ofList

def unwords (ws : List String) : String := " ".intercalate ws

/-! ## Lines -/

def dropReturn (line : List Char) : List Char :=
  if line.getLast? = some '\r' then line.dropLast else line

/-- The lines of a text. A line feed ends a line and takes a carriage return before it along; what
follows the last line feed is a line only if it holds something. -/
def lineChars (cs : List Char) : List (List Char) :=
  let pieces := cs.splitOn '\n'
  pieces.dropLast.map dropReturn ++ (pieces.getLast?.toList.filter (· ≠ []))

def lines (text : String) : List String := (lineChars text.toList).map .ofList

/-! ## Finding and splitting -/

def containsChars (needle : List Char) : List Char → Bool
  | [] => needle.isEmpty
  | c :: rest => needle.isPrefixOf (c :: rest) || containsChars needle rest

def contains (text needle : String) : Bool := containsChars needle.toList text.toList

def splitLastSpace (text : String) : Option (String × String) :=
  let reversed := text.toList.reverse
  match reversed.dropWhile (· ≠ ' ') with
  | [] => none
  | _ :: before =>
    some (.ofList before.reverse, .ofList (reversed.takeWhile (· ≠ ' ')).reverse)

/-- The pieces of a text between the signs `sign`; there is always at least one. -/
def splitOnChar (sign : Char) (text : String) : List String :=
  (text.toList.splitOn sign).map .ofList

end RouteServer.Text
