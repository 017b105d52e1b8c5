import RouteServer.Domain.Mapping
import RouteServer.Domain.Punycode
import RouteServer.Unicode.Direction
import RouteServer.Unicode.Joining

/-! # Domains in ASCII

A domain is a list of labels with points between them. A label with characters beyond ASCII is written as
`xn--` and its ASCII text. Labels that could be taken for others are refused.
-/

namespace RouteServer.Domain

open Unicode

def isAscii (cs : List Char) : Bool := cs.all fun c => c.toNat < 128

/-- What stands before the ASCII text of a label. -/
def mark : List Char := ['x', 'n', '-', '-']

/-- The characters that a label may have that is to be written in ASCII. -/
def maxLabel : Nat := 1000

def maxWritten : Nat := 2000

/-- Whether a label is well formed apart from its direction. -/
def isWellFormed (label : List Char) : Bool := !label.head?.any isMark && joinersFit [] label

/-- Whether an ASCII text could have been written for a label. -/
def isWritten (label : List Char) : Bool :=
  !isAscii label && label.all isUsual && composed label = label && !mark.isPrefixOf label

def label? (cs : List Char) : Option (List Char) := do
  let label ← if mark.isPrefixOf cs then do
      let written := cs.drop mark.length
      if !isAscii written || maxWritten < written.length then none
      let label ← decode? written
      if isWritten label then some label else none
    else if !isAscii cs && maxLabel < cs.length then none
    else some cs
  if isWellFormed label then some label else none

/-- Whether all labels of a domain keep their direction, if any of them has a script from right to left. -/
def keepDirection (labels : List (List Char)) : Bool :=
  let directions := labels.map (·.map Direction.of)
  !(directions.any (·.any Direction.turns)) || directions.all keepsDirection

/-- The domain in ASCII, if it is one; `isForbidden` tells the ASCII characters that it must not have. -/
def toAscii? (isForbidden : Char → Bool) (text : List Char) : Option (List Char) := do
  if text.any disallowed.contains then none
  let domain := composed (text.flatMap usual)
  if domain.any isForbidden then none
  let pieces := domain.splitOn '.'
  let labels ← pieces.mapM label?
  if keepDirection labels then
    some (['.'].intercalate (pieces.map fun p => if isAscii p then p else mark ++ encode p))
  else none

end RouteServer.Domain
