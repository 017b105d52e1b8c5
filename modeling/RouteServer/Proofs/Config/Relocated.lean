import RouteServer.Config.Parser
import RouteServer.Proofs.Except

/-! # Places only pass through

The parser puts the places of tokens into its state and into its refusals, and never looks at them: with every
token moved elsewhere it takes the same steps, and its state and its refusals move along.
-/

namespace RouteServer.Config

/-! ## Moving -/

section Moving

variable (f : Location → Location)

def Token.relocate (token : Token) : Token := { token with location := f token.location }

def Error.relocate : Error → Error
  | unterminatedString here => .unterminatedString (f here)
  | unexpectedToken found expected here => .unexpectedToken found expected (f here)
  | unexpectedEnd expected => .unexpectedEnd expected
  | unknownAfi token here => .unknownAfi token (f here)
  | unknownSafi token here => .unknownSafi token (f here)
  | family cause token here => .family cause token (f here)
  | invalidValue field value here => .invalidValue field value (f here)
  | duplicateStatement statement here => .duplicateStatement statement (f here)
  | unknownFamilyBlock name here => .unknownFamilyBlock name (f here)
  | duplicateFamilyBlock name here => .duplicateFamilyBlock name (f here)
  | duplicateNeighbor address here => .duplicateNeighbor address (f here)
  | missingStatement address statement here => .missingStatement address statement (f here)

def Draft.relocate (d : Draft) : Draft :=
  { d with start := f d.start, addressLocation := f d.addressLocation }

def Place.relocate : Place → Place
  | top => .top
  | blockName => .blockName
  | blockOpen name nameAt => .blockOpen name (f nameAt)
  | block name nameAt declaration place => .block name (f nameAt) declaration place
  | neighborAddress start => .neighborAddress (f start)
  | neighborOpen draft => .neighborOpen (draft.relocate f)
  | neighbor draft => .neighbor (draft.relocate f)
  | value draft s keywordAt => .value (draft.relocate f) s (f keywordAt)
  | familyReference draft keywordAt => .familyReference (draft.relocate f) (f keywordAt)
  | inline draft keywordAt declaration place => .inline (draft.relocate f) (f keywordAt) declaration place

def State.relocate (st : State) : State := { st with place := st.place.relocate f }

/-- An outcome of which the result and the error have moved. -/
def moved {α : Type} (g : α → α) (outcome : Except Error α) : Except Error α :=
  (outcome.mapError (Error.relocate f)).map g

end Moving

variable {f : Location → Location} {α β : Type} {g : α → α} {g' : β → β}

theorem moved_id (outcome : Except Error α) : moved f id outcome = outcome.mapError (Error.relocate f) := by
  cases outcome <;> rfl

theorem moved_ite {p : Prop} [Decidable p] {x y : Except Error α} :
    moved f g (if p then x else y) = if p then moved f g x else moved f g y :=
  apply_ite ..

theorem moved_bind {x y : Except Error α} {k l : α → Except Error β} (hx : y = moved f g x)
    (hk : ∀ a, l (g a) = moved f g' (k a)) : y >>= l = moved f g' (x >>= k) := by
  subst hx
  cases x with
  | ok a => exact hk a
  | error e => rfl

@[simp] theorem Place.expected_relocate (place : Place) : (place.relocate f).expected = place.expected := by
  cases place <;> rfl

@[simp] theorem Place.relocate_eq_top_iff {place : Place} : place.relocate f = .top ↔ place = .top := by
  cases place <;> simp [Place.relocate]

/-! ## Inside a family block -/

theorem declareSafi_relocate (d : FamilyDeclaration) (afi : Afi) (word : String) (here : Location) :
    declareSafi d afi word (f here) = moved f id (declareSafi d afi word here) := by
  unfold declareSafi
  cases Safi.parse word with
  | error e => rfl
  | ok safi =>
    simp only
    cases d.declare ⟨afi, safi⟩ <;> rfl

theorem FamilyPlace.step_relocate (d : FamilyDeclaration) (token : Token) (place : FamilyPlace) :
    place.step d (token.relocate f) = moved f id (place.step d token) := by
  obtain ⟨kind, here⟩ := token
  cases place with
  | statement =>
    cases kind with
    | word word =>
      simp only [FamilyPlace.step, Token.relocate]
      split
      · cases d.declareAll <;> rfl
      · cases Afi.parse word <;> rfl
    | _ => rfl
  | afterAfi afi =>
    cases kind with
    | word word => exact moved_bind (declareSafi_relocate d afi word here) fun _ => rfl
    | _ => rfl
  | list afi =>
    cases kind with
    | word word => exact moved_bind (declareSafi_relocate d afi word here) fun _ => rfl
    | _ => rfl

/-! ## Inside a neighbor block -/

namespace Draft

theorem fillOnce_relocate (slot : Option α) (value : α) (s : Statement) (here : Location) :
    fillOnce slot value s (f here) = moved f id (fillOnce slot value s here) := by
  cases slot <;> rfl

theorem valueOf_relocate (s : Statement) (value? : Option α) (text : String) (here : Location) :
    valueOf s value? text (f here) = moved f id (valueOf s value? text here) := by
  cases value? <;> rfl

theorem setFamilies_relocate (d : Draft) (families : Families) (keywordAt : Location) :
    (d.relocate f).setFamilies families (f keywordAt) =
      moved f (relocate f) (d.setFamilies families keywordAt) :=
  moved_bind (fillOnce_relocate d.families families .family keywordAt) fun _ => rfl

theorem set_relocate (d : Draft) (s : Statement) (text : String) (keywordAt valueAt : Location) :
    (d.relocate f).set s (f keywordAt) text (f valueAt) =
      moved f (relocate f) (d.set s keywordAt text valueAt) := by
  cases s with
  | description => exact moved_bind (fillOnce_relocate d.description text .description keywordAt) fun _ => rfl
  | family => rfl
  | routerId | localAddress | localAs | peerAs | holdTime =>
    refine moved_bind (valueOf_relocate _ _ text valueAt) fun value => ?_
    exact moved_bind (fillOnce_relocate _ value _ keywordAt) fun _ => rfl

theorem close_relocate (d : Draft) (earlier : List Neighbor) :
    (d.relocate f).close earlier = moved f id (d.close earlier) := by
  obtain ⟨start, address, addressText, addressLocation, description, routerId, localAddress, localAs, peerAs,
    holdTime, families⟩ := d
  simp only [close, relocate, moved_ite]
  cases localAs <;> cases peerAs <;> rfl

end Draft

/-! ## The whole text -/

namespace State

theorem closeBlock_relocate (st : State) (name : String) (nameAt : Location) (families : Families) :
    (st.relocate f).closeBlock name (f nameAt) families =
      moved f (relocate f) (st.closeBlock name nameAt families) := by
  simp only [closeBlock, relocate, moved_ite]
  rfl

theorem closeNeighbor_relocate (st : State) (draft : Draft) :
    (st.relocate f).closeNeighbor (draft.relocate f) = moved f (relocate f) (st.closeNeighbor draft) :=
  moved_bind (draft.close_relocate st.declared.neighbors) fun _ => rfl

theorem step_relocate (st : State) (token : Token) :
    (st.relocate f).step (token.relocate f) = moved f (relocate f) (st.step token) := by
  obtain ⟨declared, place⟩ := st
  obtain ⟨kind, here⟩ := token
  cases place with
  | top =>
    cases kind with
    | word word =>
      simp only [step, relocate, Place.relocate, Token.relocate]
      split <;> rfl
    | _ => rfl
  | blockName => cases kind <;> rfl
  | blockOpen name nameAt =>
    simp only [step, relocate, Place.relocate, Token.relocate, moved_ite]
    rfl
  | block name nameAt declaration place =>
    refine moved_bind (place.step_relocate declaration ⟨kind, here⟩) fun inside => ?_
    obtain ⟨declaration, _ | place⟩ := inside
    · exact closeBlock_relocate ⟨declared, _⟩ name nameAt declaration.finish
    · rfl
  | neighborAddress start =>
    simp only [step, relocate, Place.relocate, Token.relocate]
    cases nameOf? kind with
    | none => rfl
    | some text =>
      simp only
      cases Address.parse? text <;> rfl
  | neighborOpen draft =>
    simp only [step, relocate, Place.relocate, Token.relocate, moved_ite]
    rfl
  | neighbor draft =>
    cases kind with
    | closeBrace => exact closeNeighbor_relocate ⟨declared, _⟩ draft
    | word word =>
      simp only [step, relocate, Place.relocate, Token.relocate]
      cases Statement.ofKeyword? word with
      | none => rfl
      | some s => cases s <;> rfl
    | _ => rfl
  | value draft s keywordAt =>
    simp only [step, relocate, Place.relocate, Token.relocate]
    cases nameOf? kind with
    | none => rfl
    | some text => exact moved_bind (draft.set_relocate s text keywordAt here) fun _ => rfl
  | familyReference draft keywordAt =>
    cases kind with
    | word name =>
      simp only [step, relocate, Place.relocate, Token.relocate]
      cases declared.block? name with
      | none => rfl
      | some families => exact moved_bind (draft.setFamilies_relocate families keywordAt) fun _ => rfl
    | _ => rfl
  | inline draft keywordAt declaration place =>
    refine moved_bind (place.step_relocate declaration ⟨kind, here⟩) fun inside => ?_
    obtain ⟨declaration, _ | place⟩ := inside
    · exact moved_bind (draft.setFamilies_relocate declaration.finish keywordAt) fun _ => rfl
    · rfl

theorem run_relocate (st : State) (tokens : List Token) :
    (tokens.map (Token.relocate f)).foldlM step (st.relocate f) =
      moved f (relocate f) (tokens.foldlM step st) := by
  induction tokens generalizing st with
  | nil => rfl
  | cons token rest ih => exact moved_bind (step_relocate st token) fun next => ih next

theorem finish_relocate (st : State) : (st.relocate f).finish = moved f id st.finish := by
  simp only [finish, relocate, Place.relocate_eq_top_iff, Place.expected_relocate, moved_ite]
  rfl

end State

theorem ofTokens_relocate (tokens : List Token) :
    Configuration.ofTokens (tokens.map (Token.relocate f)) = moved f id (Configuration.ofTokens tokens) :=
  moved_bind (State.run_relocate {} tokens) State.finish_relocate

/-! ## Without places -/

/-- What an error says, but for where. -/
def Error.unplaced (e : Error) : Error := e.relocate fun _ => .start

/-- Tokens of the same kinds are the same tokens moved elsewhere. -/
theorem ofTokens_unplaced {a b : List Token} (h : a.map (·.kind) = b.map (·.kind)) :
    (Configuration.ofTokens a).mapError Error.unplaced = (Configuration.ofTokens b).mapError Error.unplaced := by
  have hstart : ∀ tokens : List Token, tokens.map (Token.relocate fun _ => .start) =
      (tokens.map (·.kind)).map fun kind => ⟨kind, .start⟩ := by
    intro tokens
    rw [List.map_map]
    rfl
  have hmoved : ∀ tokens, (Configuration.ofTokens tokens).mapError Error.unplaced =
      Configuration.ofTokens (tokens.map (Token.relocate fun _ => .start)) := by
    intro tokens
    rw [ofTokens_relocate, moved_id]
    rfl
  rw [hmoved, hmoved, hstart, hstart, h]

end RouteServer.Config
