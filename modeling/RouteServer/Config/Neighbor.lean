import RouteServer.Address.Printer
import RouteServer.Family
import RouteServer.Text.Blank

/-! # Configured neighbors

A neighbor is one peer that the daemon keeps a session with. It has a name, a sentence of phrases by
which control commands select it, and a text, the block that declares it.
-/

namespace RouteServer

/-- One neighbor block. Without a statement the hold time is `defaultHoldTime`. -/
structure Neighbor where
  peerAddress : Address
  description : Option String := none
  routerId : Option IPv4 := none
  localAddress : Option Address := none
  localAs : UInt32
  peerAs : UInt32
  holdTime : UInt16
  families : Families := {}
deriving DecidableEq, Repr

namespace Neighbor

def defaultHoldTime : UInt16 := 180

/-! ## Name -/

/-- The families as they stand in a name. -/
def familyPhrase (families : Families) : String :=
  if families.isEmpty then "in-open"
  else "/".intercalate (families.toList.map (Family.renderWith "-"))

def phrases (n : Neighbor) : List (String × String) :=
  [("neighbor", n.peerAddress.render)] ++
    (n.localAddress.map fun a => ("local-ip", a.render)).toList ++
    [("local-as", toString n.localAs.toNat), ("peer-as", toString n.peerAs.toNat)] ++
    (n.routerId.map fun r => ("router-id", r.render)).toList ++
    [("family-allowed", familyPhrase n.families)]

/-- The sentence by which selectors and filters find the neighbor. -/
def name (n : Neighbor) : String :=
  Text.unwords (n.phrases.flatMap fun (key, value) => [key, value])

/-! ## Text -/

def statement (keyword value : String) : String := "    " ++ keyword ++ " " ++ value ++ ";"

def familyLines (families : Families) : List String :=
  if families.isEmpty then []
  else
    ["    family \x7b"] ++
      ((Afi.all.filter fun afi => families.safis afi ≠ []).map fun afi =>
        "        " ++ afi.render ++ " [ " ++
          Text.unwords ((families.safis afi).map Safi.render) ++ " ];") ++
      ["    \x7d"]

/-- The lines of the block that declares the neighbor. -/
def blockLines (n : Neighbor) : List String :=
  ["neighbor " ++ n.peerAddress.render ++ " \x7b"] ++
    (n.description.map fun text => statement "description" ("\"" ++ text ++ "\"")).toList ++
    (n.routerId.map fun r => statement "router-id" r.render).toList ++
    (n.localAddress.map fun a => statement "local-address" a.render).toList ++
    [statement "local-as" (toString n.localAs.toNat),
      statement "peer-as" (toString n.peerAs.toNat),
      statement "hold-time" (toString n.holdTime.toNat)] ++
    familyLines n.families ++ ["\x7d"]

def render (n : Neighbor) : String := "\n".intercalate n.blockLines

end Neighbor

end RouteServer
