import RouteServer.Keyed
import RouteServer.Text.Blank

/-! # Address families

A session exchanges routes of the families that both of its ends announce. A family is a pair of an
address family identifier and a subsequent one. Only the pairs of a fixed table are implemented. A
declaration collects pairs of that table without repetition, and is finished into a set of families.
-/

namespace RouteServer

/-! ## Identifiers -/

/-- Address family identifier. -/
inductive Afi where
  | ipv4
  | ipv6
  | l2vpn
deriving DecidableEq, Repr

/-- Subsequent address family identifier. -/
inductive Safi where
  | unicast
  | multicast
  | nlriMpls
  | mplsVpn
  | flow
  | flowVpn
  | vpls
  | evpn
deriving DecidableEq, Repr

structure UnknownFamilyToken where
  token : String
deriving DecidableEq, Repr

def UnknownFamilyToken.message (e : UnknownFamilyToken) : String :=
  "unknown address family token: " ++ e.token

namespace Afi

def all : List Afi := [ipv4, ipv6, l2vpn]

def render : Afi → String
  | ipv4 => "ipv4"
  | ipv6 => "ipv6"
  | l2vpn => "l2vpn"

def parse (token : String) : Except UnknownFamilyToken Afi :=
  match all.find? fun afi => afi.render = Text.lowercase token with
  | some afi => .ok afi
  | none => .error ⟨token⟩

def rank (afi : Afi) : Nat := all.idxOf afi

instance : Ord Afi where
  compare := compareOn rank

instance : Std.TransOrd Afi := inferInstanceAs (Std.TransCmp (compareOn rank))

end Afi

namespace Safi

def all : List Safi := [unicast, multicast, nlriMpls, mplsVpn, flow, flowVpn, vpls, evpn]

def render : Safi → String
  | unicast => "unicast"
  | multicast => "multicast"
  | nlriMpls => "nlri-mpls"
  | mplsVpn => "mpls-vpn"
  | flow => "flow"
  | flowVpn => "flow-vpn"
  | vpls => "vpls"
  | evpn => "evpn"

def parse (token : String) : Except UnknownFamilyToken Safi :=
  match all.find? fun safi => safi.render = Text.lowercase token with
  | some safi => .ok safi
  | none => .error ⟨token⟩

end Safi

/-- The identifiers that go with `afi` in the table of implemented families. -/
def Afi.implemented : Afi → List Safi
  | .ipv4 => [.unicast, .multicast, .nlriMpls, .mplsVpn, .flow, .flowVpn]
  | .ipv6 => [.unicast, .flow, .flowVpn]
  | .l2vpn => [.vpls]

/-! ## Families -/

structure Family where
  afi : Afi
  safi : Safi
deriving DecidableEq, Repr

namespace Family

def all : List Family := Afi.all.flatMap fun afi => Safi.all.map (Family.mk afi)

/-- The table of implemented families. -/
def implemented : List Family := Afi.all.flatMap fun afi => afi.implemented.map (Family.mk afi)

def isImplemented (family : Family) : Bool := family.safi ∈ family.afi.implemented

def render (family : Family) : String := family.afi.render ++ " " ++ family.safi.render

/-- The family with a given sign between its identifiers. -/
def renderWith (sign : String) (family : Family) : String :=
  family.afi.render ++ sign ++ family.safi.render

def rank (family : Family) : Nat := all.idxOf family

instance : Ord Family where
  compare := compareOn rank

instance : Std.TransOrd Family := inferInstanceAs (Std.TransCmp (compareOn rank))

end Family

/-! ## Declarations -/

inductive Family.DeclarationError where
  | unimplemented (family : Family)
  | duplicate (family : Family)
deriving DecidableEq, Repr

def Family.DeclarationError.message : Family.DeclarationError → String
  | unimplemented family => "the family pair afi/safi " ++ family.renderWith "/" ++ " is unimplemented"
  | duplicate family => "afi/safi pair " ++ family.renderWith "/" ++ " already defined in this family"

/-- Families that a block declares while it is read: each address family that has come up has a slot with its
subsequent identifiers in the order of their declaration. -/
structure FamilyDeclaration where
  slots : Keyed Afi (List Safi) := {}
deriving DecidableEq, Repr

/-- The families of a block that has been read. No slot is left without an identifier. -/
structure Families where
  slots : Keyed Afi (List Safi)
  filled : ∀ slot ∈ slots.toList, slot.2 ≠ []
deriving DecidableEq, Repr

namespace FamilyDeclaration

def contains (d : FamilyDeclaration) (family : Family) : Bool :=
  (d.slots.get? family.afi).any (family.safi ∈ ·)

/-- Gives the address family a slot, unless it has one. -/
def openSlot (d : FamilyDeclaration) (afi : Afi) : FamilyDeclaration :=
  { slots := d.slots.upsert afi (·.getD []) }

/-- Puts one family behind those declared for its address family. -/
def record (d : FamilyDeclaration) (family : Family) : FamilyDeclaration :=
  { slots := d.slots.upsert family.afi fun known => known.getD [] ++ [family.safi] }

/-! ### Declaring

Each call on a declaration either records pairs or is refused. What a call has changed before it is refused would
stay. -/

/-- Calls on a declaration. -/
abbrev Declaring := ExceptT Family.DeclarationError (StateM FamilyDeclaration)

/-- Records one family that is implemented and not declared yet. -/
def add (family : Family) : Declaring Unit := do
  if !family.isImplemented then throw (.unimplemented family)
  modify (openSlot · family.afi)
  if (← get).contains family then throw (.duplicate family)
  modify (record · family)

/-- Records the whole table, if none of it is declared yet. -/
def addAll : Declaring Unit := do
  match Family.implemented.find? (← get).contains with
  | some family => throw (.duplicate family)
  | none => Family.implemented.forM fun family => modify (record · family)

/-- What a call makes of a declaration, unless it is refused. -/
def after (d : FamilyDeclaration) (call : Declaring Unit) : Except Family.DeclarationError FamilyDeclaration :=
  match call.run.run d with
  | (.ok (), next) => .ok next
  | (.error e, _) => .error e

def declare (d : FamilyDeclaration) (family : Family) : Except Family.DeclarationError FamilyDeclaration :=
  d.after (add family)

def declareAll (d : FamilyDeclaration) : Except Family.DeclarationError FamilyDeclaration := d.after addAll

/-- The families of the slots that are not empty. -/
def finish (d : FamilyDeclaration) : Families where
  slots := d.slots.filter fun _ safis => !safis.isEmpty
  filled _ hslot := by simpa using (List.mem_filter.mp hslot).2

end FamilyDeclaration

namespace Families

def empty : Families := ({} : FamilyDeclaration).finish

instance : EmptyCollection Families := ⟨empty⟩

def safis (families : Families) (afi : Afi) : List Safi := (families.slots.get? afi).getD []

def contains (families : Families) (family : Family) : Bool := family.safi ∈ families.safis family.afi

/-- Every declared family, by address family and then in the order of declaration. -/
def toList (families : Families) : List Family :=
  families.slots.toList.flatMap fun (afi, safis) => safis.map (Family.mk afi)

def size (families : Families) : Nat :=
  families.slots.toList.foldr (fun slot rest => slot.2.length + rest) 0

def isEmpty (families : Families) : Bool := families.slots.isEmpty

end Families

end RouteServer
