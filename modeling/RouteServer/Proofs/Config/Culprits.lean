import RouteServer.Proofs.Config.NeighborBody
import RouteServer.Proofs.Config.Positions

/-! # What a refusal points at

Most refusals are about the token that has just been read. Those of a statement, a name or an address that
stands twice, and those of a missing statement, come long after the token they point at: the reader has the
place of that token with it until then.
-/

namespace RouteServer.Config

/-- The draft has a value for a statement. -/
def Draft.has (d : Draft) : Statement → Bool
  | .description => d.description.isSome
  | .routerId => d.routerId.isSome
  | .localAddress => d.localAddress.isSome
  | .localAs => d.localAs.isSome
  | .peerAs => d.peerAs.isSome
  | .holdTime => d.holdTime.isSome
  | .family => d.families.isSome

/-! ## Tokens behind the reader -/

/-- Some of the tokens that have been read stand one after the other, and the first was read in a state. -/
def ReadFrom (read : List Token) (st : State) (tokens : List Token) : Prop :=
  ∃ front later, read = front ++ tokens ++ later ∧ front.foldlM State.step {} = .ok st

/-- The same, with nothing behind these tokens. -/
def EndsFrom (read : List Token) (st : State) (tokens : List Token) : Prop :=
  ∃ front, read = front ++ tokens ∧ front.foldlM State.step {} = .ok st

section

variable {read tokens : List Token} {st : State} {token : Token}

theorem EndsFrom.single (h : read.foldlM State.step {} = .ok st) : EndsFrom (read ++ [token]) st [token] :=
  ⟨read, rfl, h⟩

theorem EndsFrom.concat (h : EndsFrom read st tokens) : EndsFrom (read ++ [token]) st (tokens ++ [token]) := by
  obtain ⟨front, rfl, hfront⟩ := h
  exact ⟨front, by simp, hfront⟩

theorem EndsFrom.readFrom (h : EndsFrom read st tokens) : ReadFrom read st tokens := by
  obtain ⟨front, rfl, hfront⟩ := h
  exact ⟨front, [], by simp, hfront⟩

theorem ReadFrom.concat (h : ReadFrom read st tokens) : ReadFrom (read ++ [token]) st tokens := by
  obtain ⟨front, later, rfl, hfront⟩ := h
  exact ⟨front, later ++ [token], by simp, hfront⟩

end

/-! ## Culprits -/

/-- The token that a refusal points at has the text that the refusal names, and stands where the refusal says.
The tokens in `read` lead to the state `st`, in which `last` is refused.

A statement, a name or an address that stands twice is that of the later place. A missing statement is
reported at the word that opens the block, with the address behind this word. -/
inductive Blames (read : List Token) (st : State) (last : Token) : Error → Prop
  | unexpectedToken : Blames read st last
    (.unexpectedToken last.kind.render st.place.expected last.location)
  | unknownAfi (word : String) (hword : last.kind = .word word) (e : UnknownFamilyToken)
    (hparse : Afi.parse word = .error e) : Blames read st last (.unknownAfi word last.location)
  | unknownSafi (word : String) (hword : last.kind = .word word) (e : UnknownFamilyToken)
    (hparse : Safi.parse word = .error e) : Blames read st last (.unknownSafi word last.location)
  | family (word : String) (hword : last.kind = .word word) (cause : Family.DeclarationError) :
    Blames read st last (.family cause word last.location)
  | invalidAddress (text : String) (htext : nameOf? last.kind = some text)
    (hparse : Address.parse? text = none) :
    Blames read st last (.invalidValue .neighbor text last.location)
  | invalidValue (d : Draft) (s : Statement) (keywordAt : Location)
    (hplace : st.place = .value d s keywordAt) (text : String) (htext : nameOf? last.kind = some text) :
    Blames read st last (.invalidValue (.statement s) text last.location)
  | duplicateStatement (d : Draft) (s : Statement) (keyword : Token)
    (hread : ReadFrom read ⟨st.declared, .neighbor d⟩ [keyword]) (hkeyword : keyword.kind = .word s.keyword)
    (hset : d.has s = true) : Blames read st last (.duplicateStatement s keyword.location)
  | unknownFamilyBlock (name : String) (hname : last.kind = .word name)
    (hblock : st.declared.block? name = none) :
    Blames read st last (.unknownFamilyBlock name last.location)
  | duplicateFamilyBlock (opening naming : Token) (name : String)
    (hread : ReadFrom read ⟨st.declared, .top⟩ [opening, naming]) (hopening : opening.kind = .word "family")
    (hname : nameOf? naming.kind = some name) (hblock : (st.declared.block? name).isSome = true) :
    Blames read st last (.duplicateFamilyBlock name naming.location)
  | duplicateNeighbor (opening naming : Token) (text : String)
    (hread : ReadFrom read ⟨st.declared, .top⟩ [opening, naming]) (hopening : opening.kind = .word "neighbor")
    (htext : nameOf? naming.kind = some text)
    (hneighbor : ∃ n ∈ st.declared.neighbors, Address.parse? text = some n.peerAddress) :
    Blames read st last (.duplicateNeighbor text naming.location)
  | missingStatement (d : Draft) (hplace : st.place = .neighbor d) (s : Statement) (hset : d.has s = false)
    (opening naming : Token) (text : String) (hread : ReadFrom read ⟨st.declared, .top⟩ [opening, naming])
    (hopening : opening.kind = .word "neighbor") (htext : nameOf? naming.kind = some text) :
    Blames read st last (.missingStatement text s opening.location)

/-! ## What the reader has with it -/

/-- The block being read was opened by a keyword and a name, at the place of the name. -/
def Opened (read : List Token) (c : Configuration) (keyword name : String) (openingAt nameAt : Location) :
    Prop :=
  ∃ opening naming, ReadFrom read ⟨c, .top⟩ [opening, naming] ∧ opening.kind = .word keyword ∧
    nameOf? naming.kind = some name ∧ opening.location = openingAt ∧ naming.location = nameAt

/-- The draft has its address and its places from the tokens that open the block. -/
structure Draft.Opened (read : List Token) (c : Configuration) (d : Draft) : Prop where
  block : Config.Opened read c "neighbor" d.addressText d.start d.addressLocation
  address : Address.parse? d.addressText = some d.address

/-- The statement being read was opened by its keyword, behind the statements of the draft. -/
def Draft.Continued (read : List Token) (c : Configuration) (d : Draft) (s : Statement)
    (keywordAt : Location) : Prop :=
  ∃ keyword, ReadFrom read ⟨c, .neighbor d⟩ [keyword] ∧ keyword.kind = .word s.keyword ∧
    keyword.location = keywordAt

/-- What is kept at a place in the grammar is from the tokens that have been read. -/
def Place.Traced (read : List Token) (c : Configuration) : Place → Prop
  | top => True
  | blockName => ∃ opening, EndsFrom read ⟨c, .top⟩ [opening] ∧ opening.kind = .word "family"
  | blockOpen name nameAt => ∃ openingAt, Opened read c "family" name openingAt nameAt
  | block name nameAt _ _ => ∃ openingAt, Opened read c "family" name openingAt nameAt
  | neighborAddress start => ∃ opening, EndsFrom read ⟨c, .top⟩ [opening] ∧
      opening.kind = .word "neighbor" ∧ opening.location = start
  | neighborOpen d => d.Opened read c
  | neighbor d => d.Opened read c
  | value d s keywordAt => d.Opened read c ∧ d.Continued read c s keywordAt
  | familyReference d keywordAt => d.Opened read c ∧ d.Continued read c .family keywordAt
  | inline d keywordAt _ _ => d.Opened read c ∧ d.Continued read c .family keywordAt

section

variable {read : List Token} {c : Configuration} {d d' : Draft} {s : Statement} {token : Token}
  {keywordAt valueAt : Location}

theorem Opened.concat {keyword name : String} {openingAt nameAt : Location}
    (h : Opened read c keyword name openingAt nameAt) :
    Opened (read ++ [token]) c keyword name openingAt nameAt := by
  obtain ⟨opening, naming, hread, hrest⟩ := h
  exact ⟨opening, naming, hread.concat, hrest⟩

theorem Opened.of_name {keyword name : String} {opening : Token}
    (hread : EndsFrom read ⟨c, .top⟩ [opening]) (hopening : opening.kind = .word keyword)
    (hname : nameOf? token.kind = some name) :
    Opened (read ++ [token]) c keyword name opening.location token.location :=
  ⟨opening, token, hread.concat.readFrom, hopening, hname, rfl, rfl⟩

theorem Draft.Opened.concat (h : d.Opened read c) : d.Opened (read ++ [token]) c :=
  ⟨h.block.concat, h.address⟩

theorem Draft.Continued.concat (h : d.Continued read c s keywordAt) :
    d.Continued (read ++ [token]) c s keywordAt := by
  obtain ⟨keyword, hread, hrest⟩ := h
  exact ⟨keyword, hread.concat, hrest⟩

theorem Draft.Continued.of_keyword (hread : read.foldlM State.step {} = .ok ⟨c, .neighbor d⟩)
    (hkeyword : token.kind = .word s.keyword) : d.Continued (read ++ [token]) c s token.location :=
  ⟨token, (EndsFrom.single hread).readFrom, hkeyword, rfl⟩

theorem Draft.Opened.of_set (h : d.Opened read c) {text : String}
    (hset : d.set s keywordAt text valueAt = .ok d') : d'.Opened read c := by
  cases s with
  | description =>
    obtain ⟨-, rfl⟩ := Grammar.setDescription_eq_ok_iff.mp hset
    exact ⟨h.block, h.address⟩
  | family =>
    obtain rfl := Except.ok.inj hset
    exact h
  | _ =>
    obtain ⟨-, value, -, rfl⟩ := Grammar.fill_eq_ok_iff.mp hset
    exact ⟨h.block, h.address⟩

theorem Draft.Opened.of_setFamilies (h : d.Opened read c) {f : Families}
    (hset : d.setFamilies f keywordAt = .ok d') : d'.Opened read c := by
  obtain ⟨-, rfl⟩ := Grammar.setFamilies_eq_ok_iff.mp hset
  exact ⟨h.block, h.address⟩

end

/-! ## One token -/

section

variable {read : List Token} {st st' : State} {c : Configuration} {d d' : Draft} {s : Statement}
  {token : Token} {keywordAt valueAt : Location}

theorem State.traced_of_block {name : String} {openingAt nameAt : Location} {f : FamilyDeclaration}
    {place : FamilyPlace} (h : Opened read c "family" name openingAt nameAt)
    (hstep : State.step ⟨c, .block name nameAt f place⟩ token = .ok st') :
    st'.place.Traced (read ++ [token]) st'.declared := by
  obtain ⟨⟨g, next⟩, -, hnext⟩ := bind_eq_ok_iff.mp hstep
  cases next with
  | some place' =>
    obtain rfl := Except.ok.inj hnext
    exact ⟨openingAt, h.concat⟩
  | none =>
    simp only [State.closeBlock] at hnext
    split at hnext
    · cases hnext
    · obtain rfl := Except.ok.inj hnext
      trivial

theorem State.traced_of_neighborAddress {opening : Token} (hopens : EndsFrom read ⟨c, .top⟩ [opening])
    (hopening : opening.kind = .word "neighbor")
    (hstep : State.step ⟨c, .neighborAddress opening.location⟩ token = .ok st') :
    st'.place.Traced (read ++ [token]) st'.declared := by
  simp only [State.step] at hstep
  split at hstep
  · cases hstep
  · rename_i text htext
    split at hstep
    · cases hstep
    · rename_i address haddress
      obtain rfl := Except.ok.inj hstep
      exact ⟨.of_name hopens hopening htext, haddress⟩

theorem State.traced_of_neighbor (hread : read.foldlM State.step {} = .ok ⟨c, .neighbor d⟩)
    (h : d.Opened read c) (hstep : State.step ⟨c, .neighbor d⟩ token = .ok st') :
    st'.place.Traced (read ++ [token]) st'.declared := by
  simp only [State.step] at hstep
  split at hstep
  · obtain ⟨n, -, hreturn⟩ := bind_eq_ok_iff.mp hstep
    obtain rfl := Except.ok.inj hreturn
    trivial
  · obtain rfl := Except.ok.inj hstep
    exact h.concat
  · rename_i word hkind
    split at hstep
    · cases hstep
    · rename_i hword
      obtain rfl := Except.ok.inj hstep
      rw [← Grammar.Statement.ofKeyword?_eq_some_iff.mp hword] at hkind
      exact ⟨h.concat, .of_keyword hread hkind⟩
    · rename_i s _ hword
      obtain rfl := Except.ok.inj hstep
      rw [← Grammar.Statement.ofKeyword?_eq_some_iff.mp hword] at hkind
      exact ⟨h.concat, .of_keyword hread hkind⟩
  · cases hstep

theorem State.traced_of_familyReference (h : d.Opened read c) (hcontinued : d.Continued read c .family keywordAt)
    (hstep : State.step ⟨c, .familyReference d keywordAt⟩ token = .ok st') :
    st'.place.Traced (read ++ [token]) st'.declared := by
  simp only [State.step] at hstep
  split at hstep
  · obtain rfl := Except.ok.inj hstep
    exact ⟨h.concat, hcontinued.concat⟩
  · split at hstep
    · cases hstep
    · obtain ⟨d', hset, hreturn⟩ := bind_eq_ok_iff.mp hstep
      obtain rfl := Except.ok.inj hreturn
      exact (h.of_setFamilies hset).concat
  · cases hstep

theorem State.traced_of_inline {f : FamilyDeclaration} {place : FamilyPlace} (h : d.Opened read c)
    (hcontinued : d.Continued read c .family keywordAt)
    (hstep : State.step ⟨c, .inline d keywordAt f place⟩ token = .ok st') :
    st'.place.Traced (read ++ [token]) st'.declared := by
  obtain ⟨⟨g, next⟩, -, hnext⟩ := bind_eq_ok_iff.mp hstep
  cases next with
  | some place' =>
    obtain rfl := Except.ok.inj hnext
    exact ⟨h.concat, hcontinued.concat⟩
  | none =>
    obtain ⟨d', hset, hreturn⟩ := bind_eq_ok_iff.mp hnext
    obtain rfl := Except.ok.inj hreturn
    exact (h.of_setFamilies hset).concat

theorem State.step_traced (hread : read.foldlM State.step {} = .ok st)
    (h : st.place.Traced read st.declared) (hstep : st.step token = .ok st') :
    st'.place.Traced (read ++ [token]) st'.declared := by
  obtain ⟨c, place⟩ := st
  cases place with
  | top =>
    simp only [State.step] at hstep
    split at hstep
    · obtain rfl := Except.ok.inj hstep
      trivial
    · rename_i hkind
      obtain rfl := Except.ok.inj hstep
      exact ⟨token, .single hread, hkind⟩
    · rename_i hkind
      obtain rfl := Except.ok.inj hstep
      exact ⟨token, .single hread, hkind, rfl⟩
    · cases hstep
  | blockName =>
    obtain ⟨opening, hopens, hkind⟩ := h
    simp only [State.step] at hstep
    split at hstep
    · rename_i name hname
      obtain rfl := Except.ok.inj hstep
      exact ⟨_, .of_name hopens hkind hname⟩
    · cases hstep
  | blockOpen name nameAt =>
    obtain ⟨openingAt, hopened⟩ := h
    simp only [State.step] at hstep
    split at hstep
    · obtain rfl := Except.ok.inj hstep
      exact ⟨openingAt, hopened.concat⟩
    · cases hstep
  | block name nameAt families place =>
    obtain ⟨openingAt, hopened⟩ := h
    exact State.traced_of_block hopened hstep
  | neighborAddress start =>
    obtain ⟨opening, hopens, hkind, rfl⟩ := h
    exact State.traced_of_neighborAddress hopens hkind hstep
  | neighborOpen d =>
    simp only [State.step] at hstep
    split at hstep
    · obtain rfl := Except.ok.inj hstep
      exact Draft.Opened.concat h
    · cases hstep
  | neighbor d => exact State.traced_of_neighbor hread h hstep
  | value d s keywordAt =>
    simp only [State.step] at hstep
    split at hstep
    · cases hstep
    · obtain ⟨d', hset, hreturn⟩ := bind_eq_ok_iff.mp hstep
      obtain rfl := Except.ok.inj hreturn
      exact (h.1.of_set hset).concat
  | familyReference d keywordAt => exact State.traced_of_familyReference h.1 h.2 hstep
  | inline d keywordAt families place => exact State.traced_of_inline h.1 h.2 hstep

/-! ## Refusals -/

theorem fillOnce_eq_error_iff {α : Type} {slot : Option α} {value : α} {here : Location} {e : Error} :
    Draft.fillOnce slot value s here = .error e ↔ slot.isSome = true ∧ e = .duplicateStatement s here := by
  cases slot <;> simp [Draft.fillOnce, eq_comm]

theorem valueOf_eq_error_iff {α : Type} {value? : Option α} {text : String} {here : Location} {e : Error} :
    Draft.valueOf s value? text here = .error e ↔
      value? = none ∧ e = .invalidValue (.statement s) text here := by
  cases value? <;> simp [Draft.valueOf, eq_comm]

theorem fill_refused {α : Type} {value? slot : Option α} {text : String} {put : Option α → Draft} {e : Error}
    (h : (do let value ← Draft.valueOf s value? text valueAt
             return put (← Draft.fillOnce slot value s keywordAt)) = .error e) :
    e = .invalidValue (.statement s) text valueAt ∨
      slot.isSome = true ∧ e = .duplicateStatement s keywordAt := by
  rcases bind_eq_error_iff.mp h with hvalue | ⟨value, -, hfill⟩
  · exact .inl (valueOf_eq_error_iff.mp hvalue).2
  · rcases bind_eq_error_iff.mp hfill with hslot | ⟨_, -, hreturn⟩
    · exact .inr (fillOnce_eq_error_iff.mp hslot)
    · cases hreturn

theorem Draft.set_refused {text : String} {e : Error} (h : d.set s keywordAt text valueAt = .error e) :
    e = .invalidValue (.statement s) text valueAt ∨ d.has s = true ∧ e = .duplicateStatement s keywordAt := by
  cases s with
  | description =>
    rcases bind_eq_error_iff.mp h with hslot | ⟨_, -, hreturn⟩
    · exact .inr (fillOnce_eq_error_iff.mp hslot)
    · cases hreturn
  | family => cases h
  | _ => exact fill_refused h

theorem Draft.setFamilies_refused {f : Families} {e : Error} (h : d.setFamilies f keywordAt = .error e) :
    d.has .family = true ∧ e = .duplicateStatement .family keywordAt := by
  rcases bind_eq_error_iff.mp h with hslot | ⟨_, -, hreturn⟩
  · exact fillOnce_eq_error_iff.mp hslot
  · cases hreturn

theorem Draft.close_refused {earlier : List Neighbor} {e : Error} (h : d.close earlier = .error e) :
    (∃ n ∈ earlier, n.peerAddress = d.address) ∧ e = .duplicateNeighbor d.addressText d.addressLocation ∨
      ∃ s, d.has s = false ∧ e = .missingStatement d.addressText s d.start := by
  unfold Draft.close at h
  split at h
  · rename_i hany
    obtain rfl := Except.error.inj h
    obtain ⟨n, hmem, heq⟩ := List.any_eq_true.mp hany
    exact .inl ⟨⟨n, hmem, of_decide_eq_true heq⟩, rfl⟩
  · split at h
    · rename_i hnone
      obtain rfl := Except.error.inj h
      exact .inr ⟨.localAs, by simp [Draft.has, hnone], rfl⟩
    · rename_i hnone _
      obtain rfl := Except.error.inj h
      exact .inr ⟨.peerAs, by simp [Draft.has, hnone], rfl⟩
    · cases h

theorem afi_parse_refused {word : String} {e : UnknownFamilyToken} (h : Afi.parse word = .error e) :
    e.token = word := by
  unfold Afi.parse at h
  split at h
  · cases h
  · obtain rfl := Except.error.inj h
    rfl

theorem safi_parse_refused {word : String} {e : UnknownFamilyToken} (h : Safi.parse word = .error e) :
    e.token = word := by
  unfold Safi.parse at h
  split at h
  · cases h
  · obtain rfl := Except.error.inj h
    rfl

theorem declareSafi_refused {f : FamilyDeclaration} {afi : Afi} {word : String} (hword : token.kind = .word word)
    {e : Error} (h : declareSafi f afi word token.location = .error e) : Blames read st token e := by
  unfold declareSafi at h
  split at h
  · rename_i e' hparse
    obtain rfl := Except.error.inj h
    rw [safi_parse_refused hparse]
    exact .unknownSafi word hword e' hparse
  · obtain ⟨cause, -, rfl⟩ := mapError_eq_error_iff.mp h
    exact .family word hword cause

theorem FamilyPlace.blames_of_step {f : FamilyDeclaration} {place : FamilyPlace} {e : Error}
    (hexpected : st.place.expected = place.expected) (hstep : place.step f token = .error e) :
    Blames read st token e := by
  have hunexpected : Blames read st token (unexpected token place.expected) :=
    hexpected ▸ .unexpectedToken
  cases place with
  | statement =>
    simp only [FamilyPlace.step] at hstep
    split at hstep
    · cases hstep
    · cases hstep
    · rename_i word hword
      split at hstep
      · rcases bind_eq_error_iff.mp hstep with hall | ⟨_, -, hreturn⟩
        · obtain ⟨cause, -, rfl⟩ := mapError_eq_error_iff.mp hall
          exact .family word hword cause
        · cases hreturn
      · split at hstep
        · rename_i e' hparse
          obtain rfl := Except.error.inj hstep
          rw [afi_parse_refused hparse]
          exact .unknownAfi word hword e' hparse
        · cases hstep
    · obtain rfl := Except.error.inj hstep
      exact hunexpected
  | afterAfi afi | list afi =>
    simp only [FamilyPlace.step] at hstep
    split at hstep
    · cases hstep
    · rename_i word hword
      rcases bind_eq_error_iff.mp hstep with hsafi | ⟨_, -, hreturn⟩
      · exact declareSafi_refused hword hsafi
      · cases hreturn
    · obtain rfl := Except.error.inj hstep
      exact hunexpected

theorem Draft.Continued.blames (h : d.Continued read st.declared s keywordAt) (hset : d.has s = true) :
    Blames read st token (.duplicateStatement s keywordAt) := by
  obtain ⟨keyword, hread, hkeyword, rfl⟩ := h
  exact .duplicateStatement d s keyword hread hkeyword hset

theorem State.blames_of_closeBlock {name : String} {openingAt nameAt : Location} {f : Families} {e : Error}
    (h : Opened read st.declared "family" name openingAt nameAt)
    (hclose : st.closeBlock name nameAt f = .error e) : Blames read st token e := by
  unfold State.closeBlock at hclose
  split at hclose
  · rename_i hblock
    obtain rfl := Except.error.inj hclose
    obtain ⟨opening, naming, hread, hopening, hname, -, rfl⟩ := h
    exact .duplicateFamilyBlock opening naming name hread hopening hname hblock
  · cases hclose

theorem State.blames_of_closeNeighbor (h : d.Opened read st.declared) (hplace : st.place = .neighbor d)
    {e : Error} (hclose : st.closeNeighbor d = .error e) : Blames read st token e := by
  obtain ⟨⟨opening, naming, hread, hopening, htext, hstart, hlocation⟩, haddress⟩ := h
  rcases bind_eq_error_iff.mp hclose with hrefused | ⟨n, -, hreturn⟩
  · rcases Draft.close_refused hrefused with ⟨⟨n, hn, hpeer⟩, rfl⟩ | ⟨s, hset, rfl⟩
    · rw [← hlocation]
      exact .duplicateNeighbor opening naming _ hread hopening htext ⟨n, hn, hpeer ▸ haddress⟩
    · rw [← hstart]
      exact .missingStatement d hplace s hset opening naming _ hread hopening htext
  · cases hreturn

theorem State.blames_of_setFamilies (h : d.Continued read st.declared .family keywordAt) {f : Families}
    {put : Draft → State} {e : Error} (hrefused : (do return put (← d.setFamilies f keywordAt)) = .error e) :
    Blames read st token e := by
  rcases bind_eq_error_iff.mp hrefused with hset | ⟨_, -, hreturn⟩
  · obtain ⟨hhas, rfl⟩ := Draft.setFamilies_refused hset
    exact h.blames hhas
  · cases hreturn

theorem State.blames_of_familyReference (h : d.Continued read c .family keywordAt) {e : Error}
    (hstep : State.step ⟨c, .familyReference d keywordAt⟩ token = .error e) :
    Blames read ⟨c, .familyReference d keywordAt⟩ token e := by
  simp only [State.step] at hstep
  split at hstep
  · cases hstep
  · rename_i name hname
    split at hstep
    · rename_i hblock
      obtain rfl := Except.error.inj hstep
      exact .unknownFamilyBlock name hname hblock
    · exact State.blames_of_setFamilies h hstep
  · obtain rfl := Except.error.inj hstep
    exact .unexpectedToken

theorem State.blames_of_inline {f : FamilyDeclaration} {place : FamilyPlace}
    (h : d.Continued read c .family keywordAt) {e : Error}
    (hstep : State.step ⟨c, .inline d keywordAt f place⟩ token = .error e) :
    Blames read ⟨c, .inline d keywordAt f place⟩ token e := by
  rcases bind_eq_error_iff.mp hstep with hplace | ⟨⟨g, next⟩, -, hnext⟩
  · exact FamilyPlace.blames_of_step rfl hplace
  · cases next with
    | some place' => cases hnext
    | none => exact State.blames_of_setFamilies h hnext

theorem State.blames_of_value (h : d.Continued read c s keywordAt) {e : Error}
    (hstep : State.step ⟨c, .value d s keywordAt⟩ token = .error e) :
    Blames read ⟨c, .value d s keywordAt⟩ token e := by
  simp only [State.step] at hstep
  split at hstep
  · obtain rfl := Except.error.inj hstep
    exact .unexpectedToken
  · rename_i text htext
    rcases bind_eq_error_iff.mp hstep with hrefused | ⟨_, -, hreturn⟩
    · rcases Draft.set_refused hrefused with rfl | ⟨hset, rfl⟩
      · exact .invalidValue d s keywordAt rfl text htext
      · exact h.blames hset
    · cases hreturn

/-- A token is refused for the reason that it names, or for one among the tokens before it. -/
theorem State.blames_of_step (h : st.place.Traced read st.declared) {e : Error}
    (hstep : st.step token = .error e) : Blames read st token e := by
  obtain ⟨c, place⟩ := st
  have hunexpected : Blames read ⟨c, place⟩ token (unexpected token place.expected) := .unexpectedToken
  cases place with
  | top =>
    simp only [State.step] at hstep
    split at hstep
    case h_4 =>
      obtain rfl := Except.error.inj hstep
      exact hunexpected
    all_goals cases hstep
  | blockName =>
    simp only [State.step] at hstep
    split at hstep
    · cases hstep
    · obtain rfl := Except.error.inj hstep
      exact hunexpected
  | blockOpen name nameAt =>
    simp only [State.step] at hstep
    split at hstep
    · cases hstep
    · obtain rfl := Except.error.inj hstep
      exact hunexpected
  | block name nameAt families place =>
    obtain ⟨openingAt, hopened⟩ := h
    rcases bind_eq_error_iff.mp hstep with hplace | ⟨⟨g, next⟩, -, hnext⟩
    · exact FamilyPlace.blames_of_step rfl hplace
    · cases next with
      | some place' => cases hnext
      | none => exact State.blames_of_closeBlock hopened hnext
  | neighborAddress start =>
    simp only [State.step] at hstep
    split at hstep
    · obtain rfl := Except.error.inj hstep
      exact hunexpected
    · rename_i text htext
      split at hstep
      · rename_i hparse
        obtain rfl := Except.error.inj hstep
        exact .invalidAddress text htext hparse
      · cases hstep
  | neighborOpen d =>
    simp only [State.step] at hstep
    split at hstep
    · cases hstep
    · obtain rfl := Except.error.inj hstep
      exact hunexpected
  | neighbor d =>
    simp only [State.step] at hstep
    split at hstep
    · exact State.blames_of_closeNeighbor h rfl hstep
    · cases hstep
    · split at hstep
      · obtain rfl := Except.error.inj hstep
        exact hunexpected
      · cases hstep
      · cases hstep
    · obtain rfl := Except.error.inj hstep
      exact hunexpected
  | value d s keywordAt => exact State.blames_of_value h.2 hstep
  | familyReference d keywordAt => exact State.blames_of_familyReference h.2 hstep
  | inline d keywordAt families place => exact State.blames_of_inline h.2 hstep

/-! ## Whole texts -/

theorem blames_of_foldlM (hread : read.foldlM State.step {} = .ok st)
    (h : st.place.Traced read st.declared) {tokens : List Token} {e : Error}
    (hfold : tokens.foldlM State.step st = .error e) :
    ∃ early last later st', tokens = early ++ last :: later ∧
      (read ++ early).foldlM State.step {} = .ok st' ∧ Blames (read ++ early) st' last e := by
  induction tokens generalizing read st with
  | nil => cases hfold
  | cons token rest ih =>
    rcases bind_eq_error_iff.mp hfold with hstep | ⟨next, hstep, hrest⟩
    · refine ⟨[], token, rest, st, rfl, ?_, ?_⟩
      · rw [List.append_nil, hread]
      · rw [List.append_nil]
        exact State.blames_of_step h hstep
    · have hnext : (read ++ [token]).foldlM State.step {} = .ok next := by
        rw [Grammar.read_append hread]
        exact bind_eq_ok_iff.mpr ⟨next, hstep, rfl⟩
      obtain ⟨early, last, later, st', rfl, hearly, hblames⟩ := ih hnext (State.step_traced hread h hstep) hrest
      rw [List.append_assoc, List.singleton_append] at hearly hblames
      exact ⟨token :: early, last, later, st', rfl, hearly, hblames⟩

/-- Why a text is refused, as far as the refusal says. A string is not closed, or the text ends within an item
once all of its tokens have been read, or a token is refused; all tokens stand in the text where they say. -/
inductive Refusal (text : String) : Error → Prop
  | unterminatedString (location : Location) (hunclosed : UnclosedAt text location) :
    Refusal text (.unterminatedString location)
  | unexpectedEnd (tokens : List Token) (htokens : tokenize text = .ok tokens) (st : State)
    (hread : tokens.foldlM State.step {} = .ok st) (hplace : st.place ≠ .top) :
    Refusal text (.unexpectedEnd st.place.expected)
  | token (read : List Token) (last : Token) (later : List Token)
    (htokens : tokenize text = .ok (read ++ last :: later))
    (hstands : ∀ token ∈ read ++ last :: later, token.StandsIn text.toList) (st : State)
    (hread : read.foldlM State.step {} = .ok st) (e : Error) (hblames : Blames read st last e) :
    Refusal text e

theorem refused_for_culprit {text : String} {e : Error} (h : Configuration.parse text = .error e) :
    Refusal text e := by
  unfold Configuration.parse at h
  split at h
  · rename_i e' htokens
    obtain rfl := Except.error.inj h
    exact .unterminatedString _ (unclosedAt_of_tokenize htokens)
  · rename_i tokens htokens
    rcases bind_eq_error_iff.mp h with hrefused | ⟨st, hread, hfinish⟩
    · have hstart : ([] : List Token).foldlM State.step {} = Except.ok (ε := Error) ({} : State) := rfl
      obtain ⟨read, last, later, st, rfl, hread, hblames⟩ := blames_of_foldlM hstart trivial hrefused
      exact .token read last later htokens (tokenize_standsIn htokens) st hread e hblames
    · unfold State.finish at hfinish
      split at hfinish
      · cases hfinish
      · rename_i hplace
        obtain rfl := Except.error.inj hfinish
        exact .unexpectedEnd tokens htokens st hread hplace

theorem missing_number_reported_at_block :
    let text := "# peers\n  neighbor \"10.0.0.1\" \x7b\n    local-as 65000;\n  \x7d\n"
    let e := Error.missingStatement "10.0.0.1" .peerAs ⟨2, 3⟩
    Configuration.parse text = .error e ∧ Refusal text e :=
  ⟨by rfl, refused_for_culprit (by rfl)⟩

end

end RouteServer.Config
