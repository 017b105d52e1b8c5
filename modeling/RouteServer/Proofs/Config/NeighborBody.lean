import RouteServer.Proofs.Config.FamilyBody

/-! # Reading the inside of a neighbor block

A draft stands for the statements that have been read: its slots are what they set.
-/

namespace RouteServer.Config

def Draft.slots (d : Draft) : Grammar.Slots where
  description := d.description
  routerId := d.routerId
  localAddress := d.localAddress
  localAs := d.localAs
  peerAs := d.peerAs
  holdTime := d.holdTime
  families := d.families

namespace Grammar

/-! ## Statements of a block -/

namespace NeighborBody

@[simp]
theorem kinds_append (a b : NeighborBody) : kinds (a ++ b) = kinds a ++ kinds b := List.flatMap_append ..

@[simp] theorem kinds_cons (s : NeighborStatement) (body : NeighborBody) :
    kinds (s :: body) = s.kinds ++ kinds body := rfl

@[simp] theorem kinds_nil : kinds [] = [] := rfl

theorem statements_append (a b : NeighborBody) :
    statements (a ++ b) = a.statements ++ b.statements := List.filterMap_append

theorem value?_append (a b : NeighborBody) (s : Statement) :
    value? (a ++ b) s = (a.value? s).or (b.value? s) := List.findSome?_append

theorem source?_append (a b : NeighborBody) : source? (a ++ b) = a.source?.or b.source? :=
  List.findSome?_append

variable (body : NeighborBody) (x : NeighborStatement) (s : Statement)

theorem statements_concat : statements (body ++ [x]) = body.statements ++ x.statement?.toList := by
  rw [statements_append]
  cases h : x.statement? <;> simp [statements, h]

theorem value?_concat : value? (body ++ [x]) s = (body.value? s).or (x.valueFor? s) := by
  rw [value?_append]
  cases h : x.valueFor? s <;> simp [value?, h]

theorem source?_concat : source? (body ++ [x]) = body.source?.or x.source? := by
  rw [source?_append]
  cases h : x.source? <;> simp [source?, h]

variable {body s}

theorem value?_eq_none_iff (hs : s ≠ .family) : body.value? s = none ↔ s ∉ body.statements := by
  rw [value?, List.findSome?_eq_none_iff, statements, List.mem_filterMap, not_exists]
  refine forall_congr' fun x => ?_
  cases x <;> simp [NeighborStatement.valueFor?, NeighborStatement.statement?, Ne.symm hs]

theorem source?_eq_none_iff : body.source? = none ↔ .family ∉ body.statements := by
  rw [source?, List.findSome?_eq_none_iff, statements, List.mem_filterMap, not_exists]
  refine forall_congr' fun x => ?_
  cases x <;> simp_all [NeighborStatement.source?, NeighborStatement.statement?]

theorem value?_of_append (hs : s ≠ .family) (hunset : body.value? s = none) {v : Value}
    {more : NeighborBody} : value? (body ++ .setting s hs v :: more) s = some v.text := by
  rw [value?_append, hunset, Option.none_or]
  simp [value?, NeighborStatement.valueFor?]

theorem source?_of_append (hunset : body.source? = none) {source : FamilySource} {more : NeighborBody} :
    source? (body ++ .family source :: more) = some source := by
  rw [source?_append, hunset, Option.none_or]
  rfl

end NeighborBody

/-! ## What a statement sets -/

theorem rel_none_iff {α β : Type} {r : α → β → Prop} {a : Option α} {b : Option β}
    (h : Option.Rel r a b) : a = none ↔ b = none := by
  cases h <;> simp

theorem exists_of_rel_some {α β : Type} {r : α → β → Prop} {a : α} {b : Option β}
    (h : Option.Rel r (some a) b) : ∃ b', b = some b' ∧ r a b' := by
  cases h with
  | some hr => exact ⟨_, rfl, hr⟩

theorem rel_unique {α β : Type} {r : α → β → Prop} (hr : ∀ a b b', r a b → r a b' → b = b')
    {a : Option α} {b b' : Option β} (h : Option.Rel r a b) (h' : Option.Rel r a b') : b = b' := by
  cases h with
  | none => cases h'; rfl
  | some hb =>
    obtain ⟨_, rfl, hb'⟩ := exists_of_rel_some h'
    rw [hr _ _ _ hb hb']

variable {blocks : List (String × Families)} {body : NeighborBody} {slots slots' : Slots} {s : Statement}

theorem FamilySource.Means.unique {source : FamilySource} {f g : Families}
    (hf : source.Means blocks f) (hg : source.Means blocks g) : f = g := by
  cases source with
  | reference name => exact Option.some.inj (hf.symm.trans hg)
  | inline body => exact hf.eq_ofList.trans hg.eq_ofList.symm

theorem NeighborBody.Sets.unique (h : body.Sets blocks slots) (h' : body.Sets blocks slots') :
    slots = slots' := by
  have hparsed : ∀ {α : Type} {p : String → Option α} {text? : Option String} {a b : Option α},
      Option.Rel (fun text value => p text = some value) text? a →
      Option.Rel (fun text value => p text = some value) text? b → a = b :=
    rel_unique fun _ _ _ hb hb' => Option.some.inj (hb.symm.trans hb')
  have hmeans : ∀ source f g, FamilySource.Means blocks source f → FamilySource.Means blocks source g →
      f = g := fun _ _ _ => FamilySource.Means.unique
  cases slots
  cases slots'
  congr
  · exact (h.values .description).symm.trans (h'.values .description)
  · exact hparsed (h.values .routerId) (h'.values .routerId)
  · exact hparsed (h.values .localAddress) (h'.values .localAddress)
  · exact hparsed (h.values .localAs) (h'.values .localAs)
  · exact hparsed (h.values .peerAs) (h'.values .peerAs)
  · exact hparsed (h.values .holdTime) (h'.values .holdTime)
  · exact rel_unique hmeans h.families h'.families

theorem Slots.Holds.eq_none {text? : Option String} (hs : s ≠ .family) (h : slots.Holds text? s)
    (hempty : slots.Holds none s) : text? = none := by
  cases s with
  | description => exact h.trans hempty.symm
  | family => exact absurd rfl hs
  | _ => exact (rel_none_iff h).mpr ((rel_none_iff hempty).mp rfl)

theorem NeighborBody.distinct_concat {x : NeighborStatement} (h : body.statements.Nodup)
    (hx : x.statement? = some s) (hnew : s ∉ body.statements) :
    (NeighborBody.statements (body ++ [x])).Nodup := by
  rw [statements_concat, hx]
  refine List.nodup_append.mpr ⟨h, by simp, ?_⟩
  rintro s' hs' _ hmem rfl
  obtain rfl := List.mem_singleton.mp hmem
  exact hnew hs'

theorem NeighborBody.Sets.setting (h : body.Sets blocks slots) (hs : s ≠ .family) {v : Value}
    (hempty : slots.Holds none s) (hset : slots'.Holds (some v.text) s)
    (hkept : ∀ s', s' ≠ s → ∀ text?, slots.Holds text? s' → slots'.Holds text? s')
    (hfamilies : slots'.families = slots.families) :
    NeighborBody.Sets blocks (body ++ [.setting s hs v]) slots' := by
  have hnone : body.value? s = none := (h.values s).eq_none hs hempty
  constructor
  · exact distinct_concat h.distinct rfl ((value?_eq_none_iff hs).mp hnone)
  · intro s'
    rw [value?_concat, NeighborStatement.valueFor?]
    by_cases hss : s = s'
    · subst hss
      rw [hnone, if_pos rfl]
      exact hset
    · rw [if_neg hss, Option.or_none]
      exact hkept s' (Ne.symm hss) _ (h.values s')
  · simp only [source?_concat, NeighborStatement.source?, Option.or_none, hfamilies]
    exact h.families

theorem NeighborBody.Sets.family (h : body.Sets blocks slots) {source : FamilySource} {f : Families}
    (hempty : slots.families = none) (hmeans : source.Means blocks f) :
    NeighborBody.Sets blocks (body ++ [.family source]) { slots with families := some f } := by
  have hnone : body.source? = none := (rel_none_iff h.families).mpr hempty
  constructor
  · exact distinct_concat h.distinct rfl (source?_eq_none_iff.mp hnone)
  · intro s'
    simp only [value?_concat, NeighborStatement.valueFor?, Option.or_none]
    have := h.values s'
    cases s' <;> exact this
  · rw [source?_concat, hnone]
    exact .some hmeans

theorem NeighborBody.Sets.separator (h : body.Sets blocks slots) :
    NeighborBody.Sets blocks (body ++ [.separator]) slots := by
  constructor
  · rw [statements_concat]
    simpa [NeighborStatement.statement?] using h.distinct
  · intro s'
    simp only [value?_concat, NeighborStatement.valueFor?, Option.or_none]
    exact h.values s'
  · simp only [source?_concat, NeighborStatement.source?, Option.or_none]
    exact h.families

/-! ## Drafts -/

theorem fillOnce_eq_ok_iff {α : Type} {slot slot' : Option α} {value : α} {here : Location} :
    Draft.fillOnce slot value s here = .ok slot' ↔ slot = none ∧ slot' = some value := by
  cases slot <;> simp [Draft.fillOnce, eq_comm]

theorem valueOf_eq_ok_iff {α : Type} {value? : Option α} {value : α} {text : String} {here : Location} :
    Draft.valueOf s value? text here = .ok value ↔ value? = some value := by
  cases value? <;> simp [Draft.valueOf]

variable {d d' : Draft} {keywordAt valueAt : Location}

theorem fill_eq_ok_iff {α : Type} {value? slot : Option α} {text : String} {put : Option α → Draft} :
    (do let value ← Draft.valueOf s value? text valueAt
        return put (← Draft.fillOnce slot value s keywordAt)) = .ok d' ↔
      slot = none ∧ ∃ value, value? = some value ∧ put (some value) = d' := by
  simp only [bind_eq_ok_iff, valueOf_eq_ok_iff, fillOnce_eq_ok_iff]
  constructor
  · rintro ⟨value, hvalue, _, ⟨hnone, rfl⟩, hput⟩
    exact ⟨hnone, value, hvalue, Except.ok.inj hput⟩
  · rintro ⟨hnone, value, hvalue, rfl⟩
    exact ⟨value, hvalue, _, ⟨hnone, rfl⟩, rfl⟩

theorem setDescription_eq_ok_iff {text : String} :
    d.set .description keywordAt text valueAt = .ok d' ↔
      d.description = none ∧ { d with description := some text } = d' := by
  simp only [Draft.set, bind_eq_ok_iff, fillOnce_eq_ok_iff]
  constructor
  · rintro ⟨_, ⟨hnone, rfl⟩, hd'⟩
    exact ⟨hnone, Except.ok.inj hd'⟩
  · rintro ⟨hnone, rfl⟩
    exact ⟨_, ⟨hnone, rfl⟩, rfl⟩

theorem setFamilies_eq_ok_iff {f : Families} : d.setFamilies f keywordAt = .ok d' ↔
    d.families = none ∧ { d with families := some f } = d' := by
  simp only [Draft.setFamilies, bind_eq_ok_iff, fillOnce_eq_ok_iff]
  constructor
  · rintro ⟨_, ⟨hnone, rfl⟩, hd'⟩
    exact ⟨hnone, Except.ok.inj hd'⟩
  · rintro ⟨hnone, rfl⟩
    exact ⟨_, ⟨hnone, rfl⟩, rfl⟩

theorem holds_none_iff {α : Type} {p : String → Option α} {slot : Option α} :
    Option.Rel (fun text value => p text = some value) none slot ↔ slot = none := by
  constructor
  · exact fun h => (rel_none_iff h).mp rfl
  · rintro rfl
    exact .none

theorem NeighborBody.Sets.of_set (h : body.Sets blocks d.slots) (hs : s ≠ .family) {v : Value}
    (hset : d.set s keywordAt v.text valueAt = .ok d') :
    NeighborBody.Sets blocks (body ++ [.setting s hs v]) d'.slots ∧ d'.address = d.address := by
  cases s with
  | description =>
    obtain ⟨hnone, rfl⟩ := setDescription_eq_ok_iff.mp hset
    refine ⟨h.setting hs hnone.symm rfl ?_ rfl, rfl⟩
    intro s' hne text? hkept
    cases s' <;> first | exact hkept | exact absurd rfl hne
  | family => exact absurd rfl hs
  -- All other statements read a value from their text.
  | _ =>
    obtain ⟨hnone, value, hvalue, rfl⟩ := fill_eq_ok_iff.mp hset
    refine ⟨h.setting hs (holds_none_iff.mpr hnone) (.some hvalue) ?_ rfl, rfl⟩
    intro s' hne text? hkept
    cases s' <;> first | exact hkept | exact absurd rfl hne

theorem exists_set {text : String} (hs : s ≠ .family) (hempty : d.slots.Holds none s)
    (hvalue : slots.Holds (some text) s) : ∃ d', d.set s keywordAt text valueAt = .ok d' := by
  cases s with
  | description => exact ⟨_, setDescription_eq_ok_iff.mpr ⟨hempty.symm, rfl⟩⟩
  | family => exact absurd rfl hs
  | _ =>
    obtain ⟨value, -, hread⟩ := exists_of_rel_some hvalue
    exact ⟨_, fill_eq_ok_iff.mpr ⟨holds_none_iff.mp hempty, value, hread, rfl⟩⟩

/-! ## Reading a block -/

theorem nameOf?_kind (v : Value) : nameOf? v.kind = some v.text := by
  cases v <;> rfl

theorem exists_value {kind : TokenKind} {text : String} (h : nameOf? kind = some text) :
    ∃ v : Value, v.kind = kind ∧ v.text = text := by
  cases kind with
  | word w => exact ⟨.bare w, rfl, Option.some.inj h⟩
  | quoted w => exact ⟨.quoted w, rfl, Option.some.inj h⟩
  | _ => cases h

theorem NeighborBody.Sets.notMem_of_append {x : NeighborStatement} {more : NeighborBody}
    (hall : NeighborBody.Sets blocks (body ++ x :: more) slots) (hx : x.statement? = some s) :
    s ∉ body.statements := by
  have hdistinct := hall.distinct
  rw [statements, List.filterMap_append, List.filterMap_cons, hx] at hdistinct
  intro hmem
  exact (List.nodup_append.mp hdistinct).2.2 s hmem s List.mem_cons_self rfl

variable {c : Configuration} {token : Token}

theorem step_semicolon (htoken : token.kind = .semicolon) :
    State.step ⟨c, .neighbor d⟩ token = .ok ⟨c, .neighbor d⟩ := by
  simp only [State.step, htoken]

theorem step_keyword (hs : s ≠ .family) (htoken : token.kind = .word s.keyword) :
    State.step ⟨c, .neighbor d⟩ token = .ok ⟨c, .value d s token.location⟩ := by
  simp only [State.step, htoken, Statement.ofKeyword?_eq_some_iff.mpr rfl]

theorem step_family (htoken : token.kind = .word Statement.family.keyword) :
    State.step ⟨c, .neighbor d⟩ token = .ok ⟨c, .familyReference d token.location⟩ := by
  simp only [State.step, htoken, Statement.ofKeyword?_eq_some_iff.mpr rfl]

theorem step_value {v : Value} (htoken : token.kind = v.kind)
    (hset : d.set s keywordAt v.text token.location = .ok d') :
    State.step ⟨c, .value d s keywordAt⟩ token = .ok ⟨c, .neighbor d'⟩ := by
  simp only [State.step, htoken, nameOf?_kind, hset]
  rfl

theorem inline_embeds (d : Draft) (keywordAt : Location) :
    Embeds fun f place => ⟨c, .inline d keywordAt f place⟩ := by
  intro f place token g place' hstep
  simp only [State.step, hstep]
  rfl

theorem read_source {source : FamilySource} {f : Families} (hmeans : source.Means c.blocks f)
    (hempty : d.families = none) {tokens : List Token} (htokens : tokens.map (·.kind) = source.kinds) :
    tokens.foldlM State.step ⟨c, .familyReference d keywordAt⟩ =
      .ok ⟨c, .neighbor { d with families := some f }⟩ := by
  have hset : d.setFamilies f keywordAt = .ok { d with families := some f } :=
    setFamilies_eq_ok_iff.mpr ⟨hempty, rfl⟩
  cases source with
  | reference name =>
    obtain ⟨token, rfl, hkind⟩ := List.map_eq_singleton_iff.mp htokens
    have hblock : c.block? name = some f := hmeans
    have hstep : State.step ⟨c, .familyReference d keywordAt⟩ token =
        .ok ⟨c, .neighbor { d with families := some f }⟩ := by
      simp only [State.step, hkind, hblock, hset]
      rfl
    rw [read_cons hstep]
    rfl
  | inline body =>
    obtain ⟨brace, later, rfl, hbrace, hlater⟩ := List.map_eq_cons_iff.mp htokens
    obtain ⟨inside, closing, rfl, hinside, hclosing⟩ := List.map_eq_append_iff.mp hlater
    obtain ⟨last, rfl, hlast⟩ := List.map_eq_singleton_iff.mp hclosing
    obtain ⟨g, hcollects, rfl⟩ := FamilyBody.declares_iff.mp hmeans
    have hopen : State.step ⟨c, .familyReference d keywordAt⟩ brace =
        .ok ⟨c, .inline d keywordAt {} .statement⟩ := by
      simp only [State.step, hbrace]
    have hclose : State.step ⟨c, .inline d keywordAt g .statement⟩ last =
        .ok ⟨c, .neighbor { d with families := some g.finish }⟩ := by
      simp only [State.step, FamilyPlace.step, hlast]
      exact bind_eq_ok_iff.mpr ⟨_, rfl, bind_eq_ok_iff.mpr ⟨_, hset, rfl⟩⟩
    have hread := (inline_embeds (c := c) d keywordAt).statements FamilyBody.collects_nil hcollects hinside
    rw [read_cons hopen, read_append hread, read_cons hclose]
    rfl

theorem read_statement (h : body.Sets c.blocks d.slots) {x : NeighborStatement} {more : NeighborBody}
    (hall : NeighborBody.Sets c.blocks (body ++ x :: more) slots) {tokens : List Token}
    (htokens : tokens.map (·.kind) = x.kinds) :
    ∃ d', tokens.foldlM State.step ⟨c, .neighbor d⟩ = .ok ⟨c, .neighbor d'⟩ ∧
      NeighborBody.Sets c.blocks (body ++ [x]) d'.slots ∧ d'.address = d.address := by
  cases x with
  | separator =>
    obtain ⟨token, rfl, hkind⟩ := List.map_eq_singleton_iff.mp htokens
    exact ⟨d, read_cons (step_semicolon hkind) [], h.separator, rfl⟩
  | setting s hs v =>
    obtain ⟨keyword, later, rfl, hkeyword, hlater⟩ := List.map_eq_cons_iff.mp htokens
    obtain ⟨value, rfl, hvalue⟩ := List.map_eq_singleton_iff.mp hlater
    have hunset : body.value? s = none := (NeighborBody.value?_eq_none_iff hs).mpr (hall.notMem_of_append rfl)
    have hempty : d.slots.Holds none s := hunset ▸ h.values s
    have hreadable : slots.Holds (some v.text) s := by
      rw [← NeighborBody.value?_of_append hs hunset]
      exact hall.values s
    obtain ⟨d', hset⟩ : ∃ d', d.set s keyword.location v.text value.location = .ok d' :=
      exists_set hs hempty hreadable
    obtain ⟨hsets, haddress⟩ := h.of_set hs hset
    refine ⟨d', ?_, hsets, haddress⟩
    rw [read_cons (step_keyword hs hkeyword), read_cons (step_value hvalue hset)]
    rfl
  | family source =>
    obtain ⟨keyword, later, rfl, hkeyword, hlater⟩ := List.map_eq_cons_iff.mp htokens
    have hunset : body.source? = none := NeighborBody.source?_eq_none_iff.mpr (hall.notMem_of_append rfl)
    have hempty : d.families = none := (rel_none_iff h.families).mp hunset
    obtain ⟨f, -, hmeans⟩ : ∃ f, slots.families = some f ∧ source.Means c.blocks f := by
      apply exists_of_rel_some
      rw [← NeighborBody.source?_of_append hunset]
      exact hall.families
    refine ⟨{ d with families := some f }, ?_, h.family hempty hmeans, rfl⟩
    rw [read_cons (step_family hkeyword)]
    exact read_source hmeans hempty hlater

theorem read_statements_of_append (h : body.Sets c.blocks d.slots) {rest more : NeighborBody}
    (hall : NeighborBody.Sets c.blocks (body ++ rest ++ more) slots) {tokens : List Token}
    (htokens : tokens.map (·.kind) = rest.kinds) :
    ∃ d', tokens.foldlM State.step ⟨c, .neighbor d⟩ = .ok ⟨c, .neighbor d'⟩ ∧
      NeighborBody.Sets c.blocks (body ++ rest) d'.slots ∧ d'.address = d.address := by
  induction rest generalizing body d tokens with
  | nil =>
    obtain rfl := List.map_eq_nil_iff.mp htokens
    rw [List.append_nil]
    exact ⟨d, rfl, h, rfl⟩
  | cons x rest ih =>
    obtain ⟨early, late, rfl, hearly, hlate⟩ := List.map_eq_append_iff.mp htokens
    have hfirst : NeighborBody.Sets c.blocks (body ++ x :: (rest ++ more)) slots := by
      rwa [List.append_assoc] at hall
    obtain ⟨d', hread, hsets, haddress⟩ := read_statement h hfirst hearly
    rw [List.append_cons] at hall
    obtain ⟨d'', hrest, hslots, haddress'⟩ := ih hsets hall hlate
    refine ⟨d'', ?_, ?_, haddress'.trans haddress⟩
    · rw [read_append hread, hrest]
    · rwa [List.append_cons]

/-- A whole block is read to the slots that it sets. -/
theorem read_statements (h : body.Sets c.blocks d.slots) {rest : NeighborBody}
    (hall : NeighborBody.Sets c.blocks (body ++ rest) slots) {tokens : List Token}
    (htokens : tokens.map (·.kind) = rest.kinds) :
    ∃ d', tokens.foldlM State.step ⟨c, .neighbor d⟩ = .ok ⟨c, .neighbor d'⟩ ∧
      d'.slots = slots ∧ d'.address = d.address := by
  have hnone : NeighborBody.Sets c.blocks (body ++ rest ++ []) slots := by rwa [List.append_nil]
  obtain ⟨d', hread, hsets, haddress⟩ := read_statements_of_append h hnone htokens
  exact ⟨d', hread, hsets.unique hall, haddress⟩

end Grammar

end RouteServer.Config
