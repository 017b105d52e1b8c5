import RouteServer.Config.Parser
import RouteServer.Proofs.Family

/-! # The grammar of the neighbor configuration

A file is a list of items, and its kinds are those of the tokens that it is written with. `File.Declares` says
under which conditions a file is a configuration, and which one: what is written holds, and what is left
out has its default.

    file = (';' | family NAME '{' FB '}' | neighbor VALUE '{' NS '}')*
    FB   = (';' | all | AFI SAFI | AFI '[' SAFI* ']')*
    NS   = (';' | KEYWORD VALUE | family WORD | family '{' FB '}')*

A NAME or a VALUE is a word or a quoted string.
-/

namespace RouteServer.Config.Grammar

/-- A name or a value: a bare word or a quoted string. -/
inductive Value where
  | bare (text : String)
  | quoted (text : String)

namespace Value

def text : Value → String
  | bare text => text
  | quoted text => text

def kind : Value → TokenKind
  | bare text => .word text
  | quoted text => .quoted text

end Value

/-! ## Family blocks -/

/-- A word that is known to name an address family. -/
structure AfiWord where
  word : String
  afi : Afi
  known : Afi.parse word = .ok afi

/-- A word that is known to name a subsequent address family. -/
structure SafiWord where
  word : String
  safi : Safi
  known : Safi.parse word = .ok safi

inductive FamilyStatement where
  | separator
  | all
  | single (afi : AfiWord) (safi : SafiWord)
  | list (afi : AfiWord) (safis : List SafiWord)

namespace FamilyStatement

def kinds : FamilyStatement → List TokenKind
  | separator => [.semicolon]
  | all => [.word "all"]
  | single afi safi => [.word afi.word, .word safi.word]
  | list afi safis =>
    .word afi.word :: .openBracket :: safis.map (fun s => .word s.word) ++ [.closeBracket]

/-- The pairs that a statement declares; `all` declares the whole table. -/
def pairs : FamilyStatement → List Family
  | separator => []
  | all => Family.implemented
  | single afi safi => [⟨afi.afi, safi.safi⟩]
  | list afi safis => safis.map fun s => ⟨afi.afi, s.safi⟩

end FamilyStatement

abbrev FamilyBody := List FamilyStatement

namespace FamilyBody

def kinds (body : FamilyBody) : List TokenKind := body.flatMap FamilyStatement.kinds

def pairs (body : FamilyBody) : List Family := body.flatMap FamilyStatement.pairs

/-- The inside of a block declares implemented pairs, none of them twice. With `all`, which declares the whole
table, nothing else can be declared. The families are these pairs, by address family and then in their order. -/
structure Declares (body : FamilyBody) (families : Families) : Prop where
  implemented : ∀ p ∈ body.pairs, p.isImplemented = true
  distinct : body.pairs.Nodup
  listed : families.toList = Afi.all.flatMap fun afi => body.pairs.filter (·.afi = afi)

theorem Declares.eq_ofList {body : FamilyBody} {families : Families} (h : body.Declares families) :
    families = .ofList body.pairs :=
  Families.toList_inj.mp (h.listed.trans (Families.toList_ofList _).symm)

@[simp] theorem kinds_nil : kinds [] = [] := rfl

@[simp] theorem pairs_nil : pairs [] = [] := rfl

@[simp]
theorem kinds_append (a b : FamilyBody) : kinds (a ++ b) = kinds a ++ kinds b := List.flatMap_append ..

@[simp]
theorem pairs_append (a b : FamilyBody) : pairs (a ++ b) = pairs a ++ pairs b := List.flatMap_append ..

@[simp] theorem kinds_cons (s : FamilyStatement) (body : FamilyBody) :
    kinds (s :: body) = s.kinds ++ kinds body := rfl

@[simp] theorem pairs_cons (s : FamilyStatement) (body : FamilyBody) :
    pairs (s :: body) = s.pairs ++ pairs body := rfl

end FamilyBody

/-! ## Neighbor blocks -/

/-- Where a neighbor has its families from: a block that is declared by name, or one of its own. -/
inductive FamilySource where
  | reference (name : String)
  | inline (body : FamilyBody)

namespace FamilySource

def kinds : FamilySource → List TokenKind
  | reference name => [.word name]
  | inline body => .openBrace :: body.kinds ++ [.closeBrace]

/-- The families of a source, where some named blocks are declared. -/
def Means (blocks : List (String × Families)) : FamilySource → Families → Prop
  | reference name, families => blocks.lookup name = some families
  | inline body, families => body.Declares families

end FamilySource

inductive NeighborStatement where
  | separator
  | setting (s : Statement) (hs : s ≠ .family) (value : Value)
  | family (source : FamilySource)

namespace NeighborStatement

def kinds : NeighborStatement → List TokenKind
  | separator => [.semicolon]
  | setting s _ value => [.word s.keyword, value.kind]
  | family source => .word Statement.family.keyword :: source.kinds

def statement? : NeighborStatement → Option Statement
  | separator => none
  | setting s _ _ => some s
  | family _ => some .family

/-- The text that is given to a statement. -/
def valueFor? (s : Statement) : NeighborStatement → Option String
  | setting s' _ value => if s' = s then some value.text else none
  | _ => none

def source? : NeighborStatement → Option FamilySource
  | family source => some source
  | _ => none

end NeighborStatement

abbrev NeighborBody := List NeighborStatement

namespace NeighborBody

def kinds (body : NeighborBody) : List TokenKind := body.flatMap NeighborStatement.kinds

def statements (body : NeighborBody) : List Statement := body.filterMap NeighborStatement.statement?

def value? (body : NeighborBody) (s : Statement) : Option String :=
  body.findSome? (NeighborStatement.valueFor? s)

def source? (body : NeighborBody) : Option FamilySource := body.findSome? NeighborStatement.source?

end NeighborBody

/-- What the statements of a neighbor block set. -/
structure Slots where
  description : Option String := none
  routerId : Option IPv4 := none
  localAddress : Option Address := none
  localAs : Option UInt32 := none
  peerAs : Option UInt32 := none
  holdTime : Option UInt16 := none
  families : Option Families := none

/-- A statement with a text sets its slot to the value of the text, and without one leaves it empty. -/
def Slots.Holds (slots : Slots) (text? : Option String) : Statement → Prop
  | .description => text? = slots.description
  | .routerId => Option.Rel (fun text id => IPv4.parse? text = some id) text? slots.routerId
  | .localAddress => Option.Rel (fun text a => Address.parse? text = some a) text? slots.localAddress
  | .localAs => Option.Rel (fun text n => Decimal.readUInt32? text = some n) text? slots.localAs
  | .peerAs => Option.Rel (fun text n => Decimal.readUInt32? text = some n) text? slots.peerAs
  | .holdTime => Option.Rel (fun text n => Decimal.readUInt16? text = some n) text? slots.holdTime
  | .family => True

/-- The statements of a block set the slots: none comes twice, and each value has a meaning. -/
structure NeighborBody.Sets (blocks : List (String × Families)) (body : NeighborBody) (slots : Slots) :
    Prop where
  distinct : body.statements.Nodup
  values : ∀ s, slots.Holds (body.value? s) s
  families : Option.Rel (FamilySource.Means blocks) body.source? slots.families

/-- The slots make a neighbor. The numbers of both ends are mandatory; without a statement the hold time is 180
and there are no families. -/
structure Slots.Make (slots : Slots) (n : Neighbor) : Prop where
  description : slots.description = n.description
  routerId : slots.routerId = n.routerId
  localAddress : slots.localAddress = n.localAddress
  localAs : slots.localAs = some n.localAs
  peerAs : slots.peerAs = some n.peerAs
  holdTime : slots.holdTime.getD 180 = n.holdTime
  families : slots.families.getD {} = n.families

/-- The neighbor that a block declares for an address. -/
structure NeighborBody.Declares (blocks : List (String × Families)) (address : Value)
    (body : NeighborBody) (n : Neighbor) : Prop where
  address : Address.parse? address.text = some n.peerAddress
  sets : ∃ slots, body.Sets blocks slots ∧ slots.Make n

/-! ## Files -/

inductive Item where
  | separator
  | block (name : Value) (body : FamilyBody)
  | neighbor (address : Value) (body : NeighborBody)

def Item.kinds : Item → List TokenKind
  | separator => [.semicolon]
  | block name body =>
    [.word "family", name.kind, .openBrace] ++ body.kinds ++ [.closeBrace]
  | neighbor address body =>
    [.word "neighbor", address.kind, .openBrace] ++ body.kinds ++ [.closeBrace]

abbrev File := List Item

namespace File

def kinds (file : File) : List TokenKind := file.flatMap Item.kinds

/-- The configuration that a file declares. Each item stands behind others: a block has a name that no block
before it has, and a neighbor an address that no neighbor before it has; a neighbor may have its families
from a block before it. -/
inductive Declares : File → Configuration → Prop
  | nil : Declares [] {}
  | separator (file : File) (c : Configuration) (hfile : Declares file c) :
    Declares (file ++ [.separator]) c
  | block (file : File) (c : Configuration) (hfile : Declares file c) (name : Value)
    (body : FamilyBody) (families : Families) (hname : ∀ entry ∈ c.blocks, entry.1 ≠ name.text)
    (hbody : body.Declares families) :
    Declares (file ++ [.block name body]) { c with blocks := c.blocks ++ [(name.text, families)] }
  | neighbor (file : File) (c : Configuration) (hfile : Declares file c) (address : Value)
    (body : NeighborBody) (n : Neighbor) (hbody : body.Declares c.blocks address n)
    (haddress : ∀ earlier ∈ c.neighbors, earlier.peerAddress ≠ n.peerAddress) :
    Declares (file ++ [.neighbor address body]) { c with neighbors := c.neighbors ++ [n] }

end File

/-! ## Words -/

theorem Statement.ofKeyword?_eq_some_iff {word : String} {s : Statement} :
    Statement.ofKeyword? word = some s ↔ s.keyword = word := by
  constructor
  · intro h
    simpa using List.find?_some h
  · rintro rfl
    cases s <;> rfl

/-- The keywords of statements are written as they stand here; the words for families may have large letters, too. -/
theorem known_words (word : String) :
    (∀ s, Statement.ofKeyword? word = some s ↔ (word, s) ∈
      [("description", .description), ("router-id", .routerId), ("local-address", .localAddress),
        ("local-as", .localAs), ("peer-as", .peerAs), ("hold-time", .holdTime), ("family", .family)]) ∧
    (∀ afi, Afi.parse word = .ok afi ↔ (Text.lowercase word, afi) ∈
      [("ipv4", .ipv4), ("ipv6", .ipv6), ("l2vpn", .l2vpn)]) ∧
    ∀ safi, Safi.parse word = .ok safi ↔ (Text.lowercase word, safi) ∈
      [("unicast", .unicast), ("multicast", .multicast), ("nlri-mpls", .nlriMpls), ("mpls-vpn", .mplsVpn),
        ("flow", .flow), ("flow-vpn", .flowVpn), ("vpls", .vpls), ("evpn", .evpn)] := by
  refine ⟨fun s => ?_, fun afi => ?_, fun safi => ?_⟩
  · rw [Statement.ofKeyword?_eq_some_iff]
    cases s <;> simp [Statement.keyword, eq_comm]
  · rw [Afi.parse_eq_ok_iff]
    cases afi <;> simp [Afi.render, eq_comm]
  · rw [Safi.parse_eq_ok_iff]
    cases safi <;> simp [Safi.render, eq_comm]

end RouteServer.Config.Grammar
