import RouteServer.Address.Parser
import RouteServer.Config.Error
import RouteServer.Config.Neighbor
import RouteServer.Files.Tree
import RouteServer.Text.Decimal

/-! # Reading the neighbor configuration

The text declares named family blocks and neighbors. It is read one token at a time: the state holds
what has been declared so far and the place in the grammar, and a token either moves on to the next
place or is refused there. What comes later never changes what was declared before.
-/

namespace RouteServer

/-- A configuration: named family blocks and neighbors, both in the order of their declaration. -/
structure Configuration where
  blocks : List (String × Families) := []
  neighbors : List Neighbor := []
deriving DecidableEq, Repr

namespace Configuration

def block? (c : Configuration) (name : String) : Option Families := c.blocks.lookup name

def ofNeighbors (neighbors : List Neighbor) : Configuration := { neighbors }

end Configuration

namespace Config

/-! ## The inside of a family block -/

inductive FamilyPlace where
  | statement
  | afterAfi (afi : Afi)
  | list (afi : Afi)
deriving DecidableEq, Repr

def FamilyPlace.expected : FamilyPlace → Expected
  | statement => .familyStatement
  | afterAfi _ => .safiOrList
  | list _ => .safiOrListEnd

def unexpected (token : Token) (expected : Expected) : Error :=
  .unexpectedToken token.kind.render expected token.location

/-- The word that a name or a value is written with, bare or quoted. -/
def nameOf? : TokenKind → Option String
  | .word text => some text
  | .quoted text => some text
  | _ => none

def declareSafi (d : FamilyDeclaration) (afi : Afi) (word : String) (here : Location) :
    Except Error FamilyDeclaration :=
  match Safi.parse word with
  | .error e => .error (.unknownSafi e.token here)
  | .ok safi => (d.declare ⟨afi, safi⟩).mapError (.family · word here)

/-- Reads a token inside a family block. The place is missing once the block is closed. -/
def FamilyPlace.step (d : FamilyDeclaration) (token : Token) :
    FamilyPlace → Except Error (FamilyDeclaration × Option FamilyPlace)
  | .statement =>
    match token.kind with
    | .closeBrace => .ok (d, none)
    | .semicolon => .ok (d, some .statement)
    | .word word =>
      if word = "all" then do
        let all ← d.declareAll.mapError (.family · word token.location)
        return (all, some .statement)
      else match Afi.parse word with
        | .error e => .error (.unknownAfi e.token token.location)
        | .ok afi => .ok (d, some (.afterAfi afi))
    | _ => .error (unexpected token .familyStatement)
  | .afterAfi afi =>
    match token.kind with
    | .openBracket => .ok (d, some (.list afi))
    | .word word => do
      let more ← declareSafi d afi word token.location
      return (more, some .statement)
    | _ => .error (unexpected token .safiOrList)
  | .list afi =>
    match token.kind with
    | .closeBracket => .ok (d, some .statement)
    | .word word => do
      let more ← declareSafi d afi word token.location
      return (more, some (.list afi))
    | _ => .error (unexpected token .safiOrListEnd)

/-! ## The inside of a neighbor block -/

/-- A neighbor block that is not closed yet. -/
structure Draft where
  start : Location
  address : Address
  addressText : String
  addressLocation : Location
  description : Option String := none
  routerId : Option IPv4 := none
  localAddress : Option Address := none
  localAs : Option UInt32 := none
  peerAs : Option UInt32 := none
  holdTime : Option UInt16 := none
  families : Option Families := none
deriving DecidableEq, Repr

namespace Draft

def fillOnce (slot : Option α) (value : α) (s : Statement) (here : Location) :
    Except Error (Option α) :=
  match slot with
  | some _ => .error (.duplicateStatement s here)
  | none => .ok (some value)

/-- The value that a text has for a statement, if it has one. -/
def valueOf (s : Statement) (value? : Option α) (text : String) (here : Location) :
    Except Error α :=
  match value? with
  | none => .error (.invalidValue (.statement s) text here)
  | some value => .ok value

def setFamilies (d : Draft) (families : Families) (keywordAt : Location) : Except Error Draft := do
  return { d with families := ← fillOnce d.families families .family keywordAt }

/-- Gives a statement its value. The statement stands at `keywordAt` and its value at `valueAt`. -/
def set (d : Draft) (s : Statement) (keywordAt : Location) (text : String) (valueAt : Location) :
    Except Error Draft :=
  match s with
  | .description => do
    return { d with description := ← fillOnce d.description text s keywordAt }
  | .routerId => do
    let value ← valueOf s (IPv4.parse? text) text valueAt
    return { d with routerId := ← fillOnce d.routerId value s keywordAt }
  | .localAddress => do
    let value ← valueOf s (Address.parse? text) text valueAt
    return { d with localAddress := ← fillOnce d.localAddress value s keywordAt }
  | .localAs => do
    let value ← valueOf s (Decimal.readUInt32? text) text valueAt
    return { d with localAs := ← fillOnce d.localAs value s keywordAt }
  | .peerAs => do
    let value ← valueOf s (Decimal.readUInt32? text) text valueAt
    return { d with peerAs := ← fillOnce d.peerAs value s keywordAt }
  | .holdTime => do
    let value ← valueOf s (Decimal.readUInt16? text) text valueAt
    return { d with holdTime := ← fillOnce d.holdTime value s keywordAt }
  | .family => .ok d

/-- The neighbor that a complete block declares behind the neighbors before it. -/
def close (d : Draft) (earlier : List Neighbor) : Except Error Neighbor :=
  if earlier.any fun n => n.peerAddress = d.address then
    .error (.duplicateNeighbor d.addressText d.addressLocation)
  else match d.localAs, d.peerAs with
    | none, _ => .error (.missingStatement d.addressText .localAs d.start)
    | _, none => .error (.missingStatement d.addressText .peerAs d.start)
    | some localAs, some peerAs =>
      .ok { peerAddress := d.address, description := d.description, routerId := d.routerId,
            localAddress := d.localAddress, localAs, peerAs,
            holdTime := d.holdTime.getD Neighbor.defaultHoldTime,
            families := d.families.getD {} }

end Draft

/-! ## The whole text -/

inductive Place where
  | top
  | blockName
  | blockOpen (name : String) (nameAt : Location)
  | block (name : String) (nameAt : Location) (declaration : FamilyDeclaration) (place : FamilyPlace)
  | neighborAddress (start : Location)
  | neighborOpen (draft : Draft)
  | neighbor (draft : Draft)
  | value (draft : Draft) (s : Statement) (keywordAt : Location)
  | familyReference (draft : Draft) (keywordAt : Location)
  | inline (draft : Draft) (keywordAt : Location) (declaration : FamilyDeclaration) (place : FamilyPlace)
deriving DecidableEq, Repr

def Place.expected : Place → Expected
  | top => .block
  | blockName => .blockName
  | blockOpen .. => .openBrace
  | block _ _ _ place => place.expected
  | neighborAddress _ => .neighborAddress
  | neighborOpen _ => .openBrace
  | neighbor _ => .neighborStatement
  | value _ s _ => .value s
  | familyReference .. => .familyReference
  | inline _ _ _ place => place.expected

/-- What has been declared and where the grammar stands. -/
structure State where
  declared : Configuration := {}
  place : Place := .top
deriving DecidableEq, Repr

namespace State

def closeBlock (st : State) (name : String) (nameAt : Location) (families : Families) :
    Except Error State :=
  if (st.declared.block? name).isSome then .error (.duplicateFamilyBlock name nameAt)
  else .ok { declared := { st.declared with blocks := st.declared.blocks ++ [(name, families)] } }

def closeNeighbor (st : State) (draft : Draft) : Except Error State := do
  let n ← draft.close st.declared.neighbors
  return { declared := { st.declared with neighbors := st.declared.neighbors ++ [n] } }

def step (st : State) (token : Token) : Except Error State :=
  let refuse := .error (unexpected token st.place.expected)
  match st.place with
  | .top =>
    match token.kind with
    | .semicolon => .ok st
    | .word "family" => .ok { st with place := .blockName }
    | .word "neighbor" => .ok { st with place := .neighborAddress token.location }
    | _ => refuse
  | .blockName =>
    match nameOf? token.kind with
    | some name => .ok { st with place := .blockOpen name token.location }
    | none => refuse
  | .blockOpen name nameAt =>
    if token.kind = .openBrace then .ok { st with place := .block name nameAt {} .statement }
    else refuse
  | .block name nameAt declaration place => do
    match ← place.step declaration token with
    | (declaration, some place) => return { st with place := .block name nameAt declaration place }
    | (declaration, none) => st.closeBlock name nameAt declaration.finish
  | .neighborAddress start =>
    match nameOf? token.kind with
    | none => refuse
    | some text =>
      match Address.parse? text with
      | none => .error (.invalidValue .neighbor text token.location)
      | some address =>
        let draft : Draft :=
          { start, address, addressText := text, addressLocation := token.location }
        .ok { st with place := .neighborOpen draft }
  | .neighborOpen draft =>
    if token.kind = .openBrace then .ok { st with place := .neighbor draft } else refuse
  | .neighbor draft =>
    match token.kind with
    | .closeBrace => st.closeNeighbor draft
    | .semicolon => .ok st
    | .word word =>
      match Statement.ofKeyword? word with
      | none => refuse
      | some .family => .ok { st with place := .familyReference draft token.location }
      | some s => .ok { st with place := .value draft s token.location }
    | _ => refuse
  | .value draft s keywordAt =>
    match nameOf? token.kind with
    | none => refuse
    | some text => do
      return { st with place := .neighbor (← draft.set s keywordAt text token.location) }
  | .familyReference draft keywordAt =>
    match token.kind with
    | .openBrace => .ok { st with place := .inline draft keywordAt {} .statement }
    | .word name =>
      match st.declared.block? name with
      | none => .error (.unknownFamilyBlock name token.location)
      | some families => do
        return { st with place := .neighbor (← draft.setFamilies families keywordAt) }
    | _ => refuse
  | .inline draft keywordAt declaration place => do
    match ← place.step declaration token with
    | (declaration, some place) =>
      return { st with place := .inline draft keywordAt declaration place }
    | (declaration, none) =>
      return { st with place := .neighbor (← draft.setFamilies declaration.finish keywordAt) }

def finish (st : State) : Except Error Configuration :=
  if st.place = .top then .ok st.declared else .error (.unexpectedEnd st.place.expected)

end State

end Config

namespace Configuration

open Config in
def ofTokens (tokens : List Token) : Except Error Configuration := do
  (← tokens.foldlM State.step {}).finish

open Config in
def parse (text : String) : Except Error Configuration :=
  match tokenize text with
  | .error e => .error (.unterminatedString e.location)
  | .ok tokens => ofTokens tokens

end Configuration

/-! ## The configuration file -/

/-- Why the neighbors cannot be loaded: the file cannot be read, or its text is refused. -/
inductive Config.FileError where
  | read (path : String) (cause : SystemError)
  | text (cause : Config.Error)
deriving DecidableEq, Repr

def Config.FileError.message : Config.FileError → String
  | read path cause => "failed to read configuration '" ++ path ++ "': " ++ cause.message
  | text cause => cause.message

def Configuration.load (t : Files.Tree) (path : String) : Except Config.FileError Configuration := do
  let text ← (t.readText path).mapError (.read path)
  (Configuration.parse text).mapError .text

end RouteServer
