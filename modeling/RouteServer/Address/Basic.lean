/-! # Network addresses

Addresses of both protocol versions, and their order: every IPv4 address comes before every IPv6
address, and within a version the order is numeric.
-/

namespace RouteServer

structure IPv4 where
  a : UInt8
  b : UInt8
  c : UInt8
  d : UInt8
deriving DecidableEq, Repr

structure IPv6 where
  groups : Vector UInt16 8
deriving DecidableEq, Repr

inductive Address where
  | v4 (address : IPv4)
  | v6 (address : IPv6)
deriving DecidableEq, Repr

namespace IPv4

def octets (x : IPv4) : List UInt8 := [x.a, x.b, x.c, x.d]

def toNat (x : IPv4) : Nat := x.octets.foldl (fun n o => 256 * n + o.toNat) 0

def unspecified : IPv4 := ⟨0, 0, 0, 0⟩

end IPv4

namespace IPv6

def toNat (x : IPv6) : Nat := x.groups.toList.foldl (fun n g => 65536 * n + g.toNat) 0

/-- The address with the given groups, if there are eight. -/
def ofGroups? (groups : List UInt16) : Option IPv6 :=
  if h : groups.length = 8 then some ⟨⟨groups.toArray, by simpa using h⟩⟩ else none

def isMulticast (x : IPv6) : Bool := x.groups[0] &&& 0xFF00 = 0xFF00

/-- Whether the address is known on a single link only. -/
def isLinkLocal (x : IPv6) : Bool := x.groups[0] &&& 0xFFC0 = 0xFE80

/-- The IPv4 address that an address of the form `::ffff:a.b.c.d` stands for. -/
def mapped? (x : IPv6) : Option IPv4 :=
  match x.groups.toList with
  | [0, 0, 0, 0, 0, 0xFFFF, high, low] =>
    some ⟨(high >>> 8).toUInt8, high.toUInt8, (low >>> 8).toUInt8, low.toUInt8⟩
  | _ => none

end IPv6

namespace Address

def rank : Address → Nat
  | v4 x => x.toNat
  | v6 x => UInt32.size + x.toNat

instance : Ord Address where
  compare := compareOn rank

instance : Std.TransOrd Address := inferInstanceAs (Std.TransCmp (compareOn rank))

/-- The unspecified address of the same version. -/
def unspecifiedLike : Address → Address
  | v4 _ => v4 .unspecified
  | v6 _ => v6 ⟨Vector.replicate 8 0⟩

end Address

end RouteServer
