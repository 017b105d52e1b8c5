import RouteServer.Address.Basic

/-! # Reading addresses

An IPv4 address is four decimal octets without leading zeros. An IPv6 address is eight groups of up to
four hexadecimal digits; one `::` may stand for a run of at least one zero group, and the last two
groups may be written as an IPv4 address.
-/

namespace RouteServer

/-! ## IPv4 -/

namespace IPv4

/-- One to three digits, no leading zero, at most 255. -/
def octet? (cs : List Char) : Option UInt8 :=
  if cs ≠ [] ∧ cs.length ≤ 3 ∧ cs.all Char.isDigit ∧ (cs = ['0'] ∨ cs.head? ≠ some '0') ∧
      Nat.ofDigitChars 10 cs 0 < 256 then
    some (UInt8.ofNat (Nat.ofDigitChars 10 cs 0))
  else none

def parseChars? (cs : List Char) : Option IPv4 :=
  match cs.splitOn '.' with
  | [a, b, c, d] => do some ⟨← octet? a, ← octet? b, ← octet? c, ← octet? d⟩
  | _ => none

def parse? (text : String) : Option IPv4 := parseChars? text.toList

/-- The two groups that an IPv4 address takes at the end of an IPv6 address. -/
def toGroups (x : IPv4) : List UInt16 :=
  [x.a.toUInt16 <<< 8 ||| x.b.toUInt16, x.c.toUInt16 <<< 8 ||| x.d.toUInt16]

end IPv4

/-! ## IPv6 -/

namespace IPv6

def hexDigit? (c : Char) : Option Nat :=
  if '0' ≤ c ∧ c ≤ '9' then some (c.toNat - '0'.toNat)
  else if 'a' ≤ c ∧ c ≤ 'f' then some (c.toNat - 'a'.toNat + 10)
  else if 'A' ≤ c ∧ c ≤ 'F' then some (c.toNat - 'A'.toNat + 10)
  else none

/-- One to four hexadecimal digits. -/
def group? (cs : List Char) : Option UInt16 :=
  if cs ≠ [] ∧ cs.length ≤ 4 then
    (cs.mapM hexDigit?).map fun ds => UInt16.ofNat (ds.foldl (fun n d => 16 * n + d) 0)
  else none

/-- Groups between colons, of which the last may be an IPv4 address. -/
def groupsOf? : List (List Char) → Option (List UInt16)
  | [] => some []
  | [last] => ((group? last).map ([·])) <|> ((IPv4.parseChars? last).map IPv4.toGroups)
  | piece :: rest => do some ((← group? piece) :: (← groupsOf? rest))

/-- The groups of a text without `::`; the empty text has none. -/
def groups? (cs : List Char) : Option (List UInt16) :=
  if cs = [] then some [] else groupsOf? (cs.splitOn ':')

def splitGap : List Char → Option (List Char × List Char)
  | ':' :: ':' :: rest => some ([], rest)
  | c :: rest => (splitGap rest).map fun (before, after) => (c :: before, after)
  | [] => none

def parseChars? (cs : List Char) : Option IPv6 :=
  match splitGap cs with
  | none => groups? cs >>= ofGroups?
  | some (before, after) => do
    let head ← groups? before
    let tail ← groups? after
    if '.' ∈ before ∨ 8 ≤ head.length + tail.length then none
    else ofGroups? (head ++ List.replicate (8 - (head.length + tail.length)) 0 ++ tail)

end IPv6

/-! ## Either version -/

namespace Address

def parseChars? (cs : List Char) : Option Address :=
  ((IPv4.parseChars? cs).map v4) <|> ((IPv6.parseChars? cs).map v6)

def parse? (text : String) : Option Address := parseChars? text.toList

end Address

end RouteServer
