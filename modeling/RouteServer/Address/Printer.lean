import RouteServer.Address.Basic

/-! # Writing addresses

The canonical text of an address. An IPv6 address is written in lower case without leading zeros, and
the longest run of two or more zero groups, the first of several, is written as `::`.
-/

namespace RouteServer

namespace IPv4

def render (x : IPv4) : String := ".".intercalate (x.octets.map fun o => toString o.toNat)

end IPv4

namespace IPv6

def renderGroup (g : UInt16) : String := .ofList (Nat.toDigits 16 g.toNat)

def renderGroups (gs : List UInt16) : String := ":".intercalate (gs.map renderGroup)

def leadingZeros (gs : List UInt16) : Nat := (gs.takeWhile (· = 0)).length

/-- Start and length of the longest run of zero groups, the first of several. -/
def longestGap (gs : List UInt16) : Nat × Nat :=
  (List.range gs.length).foldl
    (fun best i => if best.2 < leadingZeros (gs.drop i) then (i, leadingZeros (gs.drop i)) else best)
    (0, 0)

def renderCompressed (x : IPv6) : String :=
  let gs := x.groups.toList
  let (start, length) := longestGap gs
  if 2 ≤ length then renderGroups (gs.take start) ++ "::" ++ renderGroups (gs.drop (start + length))
  else renderGroups gs

/-- An address that stands for an IPv4 address shows it. -/
def render (x : IPv6) : String :=
  match x.mapped? with
  | some v4 => "::ffff:" ++ v4.render
  | none => x.renderCompressed

end IPv6

namespace Address

def render : Address → String
  | v4 x => x.render
  | v6 x => x.render

instance : ToString Address := ⟨render⟩

end Address

end RouteServer
