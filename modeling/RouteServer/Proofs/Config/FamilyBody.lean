import RouteServer.Proofs.Config.Grammar
import RouteServer.Proofs.Except

/-! # Reading the inside of a family block

Token by token, the place in a block and the declaration stand for the statements that have been read.
-/

namespace RouteServer.Config

namespace Grammar

namespace FamilyBody

/-- A declaration in which the pairs of a block have been recorded, all of which may be declared. -/
def Collects (body : FamilyBody) (d : FamilyDeclaration) : Prop :=
  Families.Declarable body.pairs ∧ .ofList body.pairs = d

theorem declares_iff {body : FamilyBody} {f : Families} :
    body.Declares f ↔ ∃ d, body.Collects d ∧ d.finish = f := by
  constructor
  · intro h
    exact ⟨_, ⟨⟨h.implemented, h.distinct⟩, rfl⟩, h.eq_ofList.symm⟩
  · rintro ⟨_, ⟨⟨himplemented, hdistinct⟩, rfl⟩, rfl⟩
    exact ⟨himplemented, hdistinct, Families.toList_ofList body.pairs⟩

theorem Collects.declares {body : FamilyBody} {d : FamilyDeclaration} (h : body.Collects d) :
    body.Declares d.finish := declares_iff.mpr ⟨d, h, rfl⟩

theorem Collects.unique {body : FamilyBody} {d d' : FamilyDeclaration} (h : body.Collects d)
    (h' : body.Collects d') : d = d' := h.2.symm.trans h'.2

theorem collects_nil : Collects [] {} := ⟨.nil, rfl⟩

theorem Collects.of_pairs {a b : FamilyBody} {d : FamilyDeclaration} (h : b.Collects d) (more : List Family)
    (hpairs : b.pairs = a.pairs ++ more) : ∃ d', a.Collects d' :=
  ⟨_, (hpairs ▸ h.1 : Families.Declarable (a.pairs ++ more)).of_append, rfl⟩

end FamilyBody

variable {body : FamilyBody} {d d' : FamilyDeclaration} {afi : AfiWord} {safis : List SafiWord}

/-! ## One declaration -/

theorem declareAll_iff (h : body.Collects d) :
    d.declareAll = .ok d' ↔ FamilyBody.Collects (body ++ [.all]) d' := by
  obtain ⟨hpairs, rfl⟩ := h
  rw [FamilyBody.Collects, FamilyBody.pairs_append]
  exact FamilyDeclaration.declareAll_ofList_iff hpairs

theorem declare_single_iff (h : body.Collects d) (safi : SafiWord) :
    d.declare ⟨afi.afi, safi.safi⟩ = .ok d' ↔ FamilyBody.Collects (body ++ [.single afi safi]) d' := by
  obtain ⟨hpairs, rfl⟩ := h
  rw [FamilyBody.Collects, FamilyBody.pairs_append]
  exact FamilyDeclaration.declare_ofList_iff hpairs _

theorem declare_list_iff (h : FamilyBody.Collects (body ++ [.list afi safis]) d) (safi : SafiWord) :
    d.declare ⟨afi.afi, safi.safi⟩ = .ok d' ↔
      FamilyBody.Collects (body ++ [.list afi (safis ++ [safi])]) d' := by
  obtain ⟨hpairs, rfl⟩ := h
  have hmore : FamilyBody.pairs (body ++ [.list afi (safis ++ [safi])]) =
      FamilyBody.pairs (body ++ [.list afi safis]) ++ [⟨afi.afi, safi.safi⟩] := by
    simp [FamilyStatement.pairs]
  rw [FamilyBody.Collects, hmore]
  exact FamilyDeclaration.declare_ofList_iff hpairs _

theorem collects_list_nil : FamilyBody.Collects (body ++ [.list afi []]) d ↔ body.Collects d := by
  simp [FamilyBody.Collects, FamilyStatement.pairs]

theorem collects_separator : FamilyBody.Collects (body ++ [.separator]) d ↔ body.Collects d := by
  simp [FamilyBody.Collects, FamilyStatement.pairs]

theorem declareSafi_eq_ok_iff {afi : Afi} {word : String} {here : Location} :
    declareSafi d afi word here = .ok d' ↔
      ∃ safi : SafiWord, safi.word = word ∧ d.declare ⟨afi, safi.safi⟩ = .ok d' := by
  unfold declareSafi
  cases hparse : Safi.parse word with
  | error e =>
    constructor
    · intro h
      cases h
    · rintro ⟨safi, rfl, -⟩
      cases hparse.symm.trans safi.known
  | ok safi =>
    rw [mapError_eq_ok_iff]
    constructor
    · exact fun h => ⟨⟨word, safi, hparse⟩, rfl, h⟩
    · rintro ⟨safi', rfl, h⟩
      obtain rfl := Except.ok.inj (hparse.symm.trans safi'.known)
      exact h

/-! ## What has been read -/

/-- The kinds of the tokens that have been read inside a block, at a place in it. -/
inductive Within : List TokenKind → FamilyDeclaration → FamilyPlace → Prop
  | statement (body : FamilyBody) (d : FamilyDeclaration) (hbody : body.Collects d) :
    Within body.kinds d .statement
  | afterAfi (body : FamilyBody) (d : FamilyDeclaration) (hbody : body.Collects d) (afi : AfiWord) :
    Within (body.kinds ++ [.word afi.word]) d (.afterAfi afi.afi)
  | list (body : FamilyBody) (d : FamilyDeclaration) (afi : AfiWord) (safis : List SafiWord)
    (hbody : FamilyBody.Collects (body ++ [.list afi safis]) d) :
    Within (body.kinds ++ .word afi.word :: .openBracket :: safis.map (fun s => .word s.word)) d
      (.list afi.afi)

theorem within_nil : Within [] {} .statement := .statement [] {} FamilyBody.collects_nil

theorem Within.of_eq {kinds kinds' : List TokenKind} {place : FamilyPlace} (h : Within kinds d place)
    (heq : kinds' = kinds) : Within kinds' d place := heq ▸ h

/-- Where a token leads: on within the block, or out of it behind a complete statement. -/
def LeadsTo (kinds : List TokenKind) (kind : TokenKind) (d : FamilyDeclaration) : Option FamilyPlace → Prop
  | some place => Within (kinds ++ [kind]) d place
  | none => kind = .closeBrace ∧ ∃ body : FamilyBody, kinds = body.kinds ∧ body.Collects d

variable {token : Token} {next : Option FamilyPlace}

theorem leadsTo_of_statement (hbody : body.Collects d)
    (hstep : FamilyPlace.step d token .statement = .ok (d', next)) :
    LeadsTo body.kinds token.kind d' next := by
  simp only [FamilyPlace.step] at hstep
  split at hstep
  · rename_i hkind
    obtain ⟨rfl, rfl⟩ := Prod.mk.inj (Except.ok.inj hstep)
    exact ⟨hkind, body, rfl, hbody⟩
  · rename_i hkind
    obtain ⟨rfl, rfl⟩ := Prod.mk.inj (Except.ok.inj hstep)
    apply (Within.statement _ _ (collects_separator.mpr hbody)).of_eq
    simp [FamilyStatement.kinds, hkind]
  · rename_i word hkind
    -- `all` stands for the whole table; any other word must name an address family.
    split at hstep
    · rename_i hall
      obtain ⟨all, hdeclared, hreturn⟩ := bind_eq_ok_iff.mp hstep
      obtain ⟨rfl, rfl⟩ := Prod.mk.inj (Except.ok.inj hreturn)
      have hmore := (declareAll_iff hbody).mp (mapError_eq_ok_iff.mp hdeclared)
      apply (Within.statement _ _ hmore).of_eq
      simp [FamilyStatement.kinds, hkind, hall]
    · cases hparse : Afi.parse word with
      | error e => simp [hparse] at hstep
      | ok afi =>
        simp only [hparse, Except.ok.injEq, Prod.mk.injEq] at hstep
        obtain ⟨rfl, rfl⟩ := hstep
        exact (Within.afterAfi body d hbody ⟨word, afi, hparse⟩).of_eq (by rw [hkind])
  · cases hstep

theorem leadsTo_of_afterAfi (hbody : body.Collects d)
    (hstep : FamilyPlace.step d token (.afterAfi afi.afi) = .ok (d', next)) :
    LeadsTo (body.kinds ++ [.word afi.word]) token.kind d' next := by
  simp only [FamilyPlace.step] at hstep
  split at hstep
  · rename_i hkind
    obtain ⟨rfl, rfl⟩ := Prod.mk.inj (Except.ok.inj hstep)
    apply (Within.list body d afi [] (collects_list_nil.mpr hbody)).of_eq
    simp [hkind]
  · rename_i word hkind
    obtain ⟨more, hdeclared, hreturn⟩ := bind_eq_ok_iff.mp hstep
    obtain ⟨rfl, rfl⟩ := Prod.mk.inj (Except.ok.inj hreturn)
    obtain ⟨safi, rfl, hmore⟩ := declareSafi_eq_ok_iff.mp hdeclared
    apply (Within.statement _ _ ((declare_single_iff hbody safi).mp hmore)).of_eq
    simp [FamilyStatement.kinds, hkind]
  · cases hstep

theorem leadsTo_of_list (hbody : FamilyBody.Collects (body ++ [.list afi safis]) d)
    (hstep : FamilyPlace.step d token (.list afi.afi) = .ok (d', next)) :
    LeadsTo (body.kinds ++ .word afi.word :: .openBracket :: safis.map (fun s => .word s.word)) token.kind d'
      next := by
  simp only [FamilyPlace.step] at hstep
  split at hstep
  · rename_i hkind
    obtain ⟨rfl, rfl⟩ := Prod.mk.inj (Except.ok.inj hstep)
    apply (Within.statement _ _ hbody).of_eq
    simp [FamilyStatement.kinds, hkind]
  · rename_i word hkind
    obtain ⟨more, hdeclared, hreturn⟩ := bind_eq_ok_iff.mp hstep
    obtain ⟨rfl, rfl⟩ := Prod.mk.inj (Except.ok.inj hreturn)
    obtain ⟨safi, rfl, hmore⟩ := declareSafi_eq_ok_iff.mp hdeclared
    apply (Within.list body _ afi (safis ++ [safi]) ((declare_list_iff hbody safi).mp hmore)).of_eq
    simp [hkind]
  · cases hstep

theorem Within.step {kinds : List TokenKind} {place : FamilyPlace} (h : Within kinds d place)
    (hstep : place.step d token = .ok (d', next)) : LeadsTo kinds token.kind d' next := by
  cases h with
  | statement body d hbody => exact leadsTo_of_statement hbody hstep
  | afterAfi body d hbody afi => exact leadsTo_of_afterAfi hbody hstep
  | list body d afi safis hbody => exact leadsTo_of_list hbody hstep

/-! ## Reading a block -/

theorem read_cons {st st' : State} {token : Token} (h : st.step token = .ok st') (rest : List Token) :
    (token :: rest).foldlM State.step st = rest.foldlM State.step st' := by
  rw [List.foldlM_cons, h]
  rfl

theorem read_append {st st' : State} {early : List Token}
    (h : early.foldlM State.step st = .ok st') (late : List Token) :
    (early ++ late).foldlM State.step st = late.foldlM State.step st' := by
  rw [List.foldlM_append, h]
  rfl

theorem AfiWord.ne_all (afi : AfiWord) : afi.word ≠ "all" := by
  intro h
  have hunknown : Afi.parse "all" = .error ⟨"all"⟩ := rfl
  rw [← h, afi.known] at hunknown
  cases hunknown

theorem step_afi (afi : AfiWord) (htoken : token.kind = .word afi.word) :
    FamilyPlace.step d token .statement = .ok (d, some (.afterAfi afi.afi)) := by
  simp only [FamilyPlace.step, htoken, if_neg afi.ne_all, afi.known]

variable {inside : FamilyDeclaration → FamilyPlace → State}

/-- The states of a reader that stands in a family block, wherever the block itself stands. -/
def Embeds (inside : FamilyDeclaration → FamilyPlace → State) : Prop :=
  ∀ d place token d' place', FamilyPlace.step d token place = .ok (d', some place') →
    (inside d place).step token = .ok (inside d' place')

theorem Embeds.list (hinside : Embeds inside) {done rest : List SafiWord}
    (hd : FamilyBody.Collects (body ++ [.list afi done]) d)
    (hd' : FamilyBody.Collects (body ++ [.list afi (done ++ rest)]) d') {tokens : List Token}
    (htokens : tokens.map (·.kind) = rest.map fun s => .word s.word) :
    tokens.foldlM State.step (inside d (.list afi.afi)) = .ok (inside d' (.list afi.afi)) := by
  induction rest generalizing done d tokens with
  | nil =>
    obtain rfl := List.map_eq_nil_iff.mp htokens
    rw [List.append_nil] at hd'
    obtain rfl := hd.unique hd'
    rfl
  | cons safi rest ih =>
    obtain ⟨token, later, rfl, hkind, hlater⟩ := List.map_eq_cons_iff.mp htokens
    rw [List.append_cons done] at hd'
    obtain ⟨d₁, hd₁⟩ : ∃ d₁, FamilyBody.Collects (body ++ [.list afi (done ++ [safi])]) d₁ :=
      hd'.of_pairs (rest.map fun s => ⟨afi.afi, s.safi⟩) (by simp [FamilyStatement.pairs])
    have hdeclare : declareSafi d afi.afi safi.word token.location = .ok d₁ :=
      declareSafi_eq_ok_iff.mpr ⟨safi, rfl, (declare_list_iff hd safi).mpr hd₁⟩
    have hstep : FamilyPlace.step d token (.list afi.afi) = .ok (d₁, some (.list afi.afi)) := by
      simp only [FamilyPlace.step, hkind, hdeclare]
      rfl
    rw [read_cons (hinside _ _ _ _ _ hstep)]
    exact ih hd₁ hd' hlater

theorem Embeds.statement (hinside : Embeds inside) (hd : body.Collects d) {s : FamilyStatement}
    (hd' : FamilyBody.Collects (body ++ [s]) d') {tokens : List Token}
    (htokens : tokens.map (·.kind) = s.kinds) :
    tokens.foldlM State.step (inside d .statement) = .ok (inside d' .statement) := by
  cases s with
  | separator =>
    obtain ⟨token, rfl, hkind⟩ := List.map_eq_singleton_iff.mp htokens
    obtain rfl := hd.unique (collects_separator.mp hd')
    have hstep : FamilyPlace.step d token .statement = .ok (d, some .statement) := by
      simp only [FamilyPlace.step, hkind]
    rw [read_cons (hinside _ _ _ _ _ hstep)]
    rfl
  | all =>
    obtain ⟨token, rfl, hkind⟩ := List.map_eq_singleton_iff.mp htokens
    have hstep : FamilyPlace.step d token .statement = .ok (d', some .statement) := by
      simp only [FamilyPlace.step, hkind, if_true, (declareAll_iff hd).mpr hd']
      rfl
    rw [read_cons (hinside _ _ _ _ _ hstep)]
    rfl
  | single afi safi =>
    obtain ⟨first, later, rfl, hfirst, hlater⟩ := List.map_eq_cons_iff.mp htokens
    obtain ⟨second, rfl, hsecond⟩ := List.map_eq_singleton_iff.mp hlater
    have hdeclare : declareSafi d afi.afi safi.word second.location = .ok d' :=
      declareSafi_eq_ok_iff.mpr ⟨safi, rfl, (declare_single_iff hd safi).mpr hd'⟩
    have hsafi : FamilyPlace.step d second (.afterAfi afi.afi) = .ok (d', some .statement) := by
      simp only [FamilyPlace.step, hsecond, hdeclare]
      rfl
    rw [read_cons (hinside _ _ _ _ _ (step_afi afi hfirst)), read_cons (hinside _ _ _ _ _ hsafi)]
    rfl
  | list afi safis =>
    obtain ⟨first, later, rfl, hfirst, hlater⟩ := List.map_eq_cons_iff.mp htokens
    obtain ⟨bracket, later, rfl, hbracket, hlater⟩ := List.map_eq_cons_iff.mp hlater
    obtain ⟨words, closing, rfl, hwords, hclosing⟩ := List.map_eq_append_iff.mp hlater
    obtain ⟨last, rfl, hlast⟩ := List.map_eq_singleton_iff.mp hclosing
    have hopen : FamilyPlace.step d bracket (.afterAfi afi.afi) = .ok (d, some (.list afi.afi)) := by
      simp only [FamilyPlace.step, hbracket]
    have hclose : FamilyPlace.step d' last (.list afi.afi) = .ok (d', some .statement) := by
      simp only [FamilyPlace.step, hlast]
    have hread := hinside.list (collects_list_nil.mpr hd) hd' hwords
    rw [read_cons (hinside _ _ _ _ _ (step_afi afi hfirst)), read_cons (hinside _ _ _ _ _ hopen), read_append hread,
      read_cons (hinside _ _ _ _ _ hclose)]
    rfl

/-- The statements of a block are read one after the other. -/
theorem Embeds.statements (hinside : Embeds inside) (hd : body.Collects d) {rest : FamilyBody}
    (hd' : FamilyBody.Collects (body ++ rest) d') {tokens : List Token}
    (htokens : tokens.map (·.kind) = rest.kinds) :
    tokens.foldlM State.step (inside d .statement) = .ok (inside d' .statement) := by
  induction rest generalizing body d tokens with
  | nil =>
    obtain rfl := List.map_eq_nil_iff.mp htokens
    rw [List.append_nil] at hd'
    obtain rfl := hd.unique hd'
    rfl
  | cons s rest ih =>
    obtain ⟨early, late, rfl, hearly, hlate⟩ := List.map_eq_append_iff.mp htokens
    rw [List.append_cons] at hd'
    obtain ⟨d₁, hd₁⟩ : ∃ d₁, FamilyBody.Collects (body ++ [s]) d₁ :=
      hd'.of_pairs _ (FamilyBody.pairs_append _ rest)
    rw [read_append (hinside.statement hd hd₁ hearly)]
    exact ih hd₁ hd' hlate

end Grammar

end RouteServer.Config
