import RouteServer.Proofs.Config.NeighborBody

/-! # The accepted configurations

The tokens are accepted if they are those of a file that declares a configuration, and the result is that
configuration. One direction follows a reader from token to token: what it has read are the kinds of a
file, up to the place where it stands. The other direction reads a file, item by item.
-/

namespace RouteServer.Config

namespace Grammar

variable {c : Configuration} {st st' : State} {d : Draft} {n : Neighbor}

/-! ## Closing a block -/

theorem block?_isSome_eq_false_iff {name : String} :
    (c.block? name).isSome = false ↔ ∀ entry ∈ c.blocks, entry.1 ≠ name := by
  rw [Option.isSome_eq_false_iff, Option.isNone_iff_eq_none, Configuration.block?, List.lookup_eq_none_iff]
  refine forall_congr' fun entry => imp_congr_right fun _ => ?_
  rw [bne_iff_ne, ne_comm]

theorem closeBlock_eq_ok_iff {name : String} {nameAt : Location} {f : Families} :
    st.closeBlock name nameAt f = .ok st' ↔ (∀ entry ∈ st.declared.blocks, entry.1 ≠ name) ∧
      { declared := { st.declared with blocks := st.declared.blocks ++ [(name, f)] } } = st' := by
  rw [State.closeBlock, ← block?_isSome_eq_false_iff]
  cases (st.declared.block? name).isSome <;> simp

theorem close_eq_ok_iff {earlier : List Neighbor} : d.close earlier = .ok n ↔
    (∀ e ∈ earlier, e.peerAddress ≠ d.address) ∧ d.address = n.peerAddress ∧ d.slots.Make n := by
  unfold Draft.close
  split
  · rename_i hany
    obtain ⟨e, hmem, heq⟩ := List.any_eq_true.mp hany
    constructor
    · intro h
      cases h
    · rintro ⟨hnew, -⟩
      exact absurd (of_decide_eq_true heq) (hnew e hmem)
  · rename_i hany
    have hnew : ∀ e ∈ earlier, e.peerAddress ≠ d.address := by simpa using hany
    split
    · rename_i hnone
      constructor
      · intro h
        cases h
      · rintro ⟨-, -, hmake⟩
        cases hnone.symm.trans hmake.localAs
    · rename_i hnone _
      constructor
      · intro h
        cases h
      · rintro ⟨-, -, hmake⟩
        cases hnone.symm.trans hmake.peerAs
    · rename_i localAs peerAs hlocalAs hpeerAs
      constructor
      · intro h
        obtain rfl := Except.ok.inj h
        exact ⟨hnew, rfl, rfl, rfl, rfl, hlocalAs, hpeerAs, rfl, rfl⟩
      · rintro ⟨-, haddress, hmake⟩
        cases n
        obtain rfl := Option.some.inj (hlocalAs.symm.trans hmake.localAs)
        obtain rfl := Option.some.inj (hpeerAs.symm.trans hmake.peerAs)
        simp only [Except.ok.injEq, Neighbor.mk.injEq]
        exact ⟨haddress, hmake.description, hmake.routerId, hmake.localAddress, trivial, trivial,
          hmake.holdTime, hmake.families⟩

/-! ## What has been read -/

/-- The kinds of the tokens up to the inside of a neighbor block, after some of its statements. -/
def neighborKinds (file : File) (address : Value) (body : NeighborBody) : List TokenKind :=
  file.kinds ++ [.word "neighbor", address.kind, .openBrace] ++ body.kinds

/-- A draft stands for an address and for the statements behind it. -/
structure Drafted (blocks : List (String × Families)) (address : Value) (body : NeighborBody)
    (d : Draft) : Prop where
  address : Address.parse? address.text = some d.address
  sets : body.Sets blocks d.slots

/-- The kinds of the tokens that have been read are those of a file, up to the place that is reached. -/
inductive Reached : List TokenKind → State → Prop
  | top (file : File) (c : Configuration) (hfile : file.Declares c) : Reached file.kinds ⟨c, .top⟩
  | blockName (file : File) (c : Configuration) (hfile : file.Declares c) :
    Reached (file.kinds ++ [.word "family"]) ⟨c, .blockName⟩
  | blockOpen (file : File) (c : Configuration) (hfile : file.Declares c) (name : Value) (at' : Location) :
    Reached (file.kinds ++ [.word "family", name.kind]) ⟨c, .blockOpen name.text at'⟩
  | block (file : File) (c : Configuration) (hfile : file.Declares c) (name : Value) (at' : Location)
    (kinds : List TokenKind) (f : FamilyDeclaration) (place : FamilyPlace) (hwithin : Within kinds f place) :
    Reached (file.kinds ++ [.word "family", name.kind, .openBrace] ++ kinds)
      ⟨c, .block name.text at' f place⟩
  | neighborAddress (file : File) (c : Configuration) (hfile : file.Declares c) (start : Location) :
    Reached (file.kinds ++ [.word "neighbor"]) ⟨c, .neighborAddress start⟩
  | neighborOpen (file : File) (c : Configuration) (hfile : file.Declares c) (address : Value)
    (d : Draft) (hd : Drafted c.blocks address [] d) :
    Reached (file.kinds ++ [.word "neighbor", address.kind]) ⟨c, .neighborOpen d⟩
  | neighbor (file : File) (c : Configuration) (hfile : file.Declares c) (address : Value)
    (body : NeighborBody) (d : Draft) (hd : Drafted c.blocks address body d) :
    Reached (neighborKinds file address body) ⟨c, .neighbor d⟩
  | value (file : File) (c : Configuration) (hfile : file.Declares c) (address : Value)
    (body : NeighborBody) (d : Draft) (hd : Drafted c.blocks address body d) (s : Statement)
    (hs : s ≠ .family) (at' : Location) :
    Reached (neighborKinds file address body ++ [.word s.keyword]) ⟨c, .value d s at'⟩
  | familyReference (file : File) (c : Configuration) (hfile : file.Declares c) (address : Value)
    (body : NeighborBody) (d : Draft) (hd : Drafted c.blocks address body d) (at' : Location) :
    Reached (neighborKinds file address body ++ [.word Statement.family.keyword])
      ⟨c, .familyReference d at'⟩
  | inline (file : File) (c : Configuration) (hfile : file.Declares c) (address : Value)
    (body : NeighborBody) (d : Draft) (hd : Drafted c.blocks address body d) (at' : Location)
    (kinds : List TokenKind) (f : FamilyDeclaration) (place : FamilyPlace) (hwithin : Within kinds f place) :
    Reached (neighborKinds file address body ++ [.word Statement.family.keyword, .openBrace] ++ kinds)
      ⟨c, .inline d at' f place⟩

theorem Reached.of_eq {kinds kinds' : List TokenKind} (h : Reached kinds st) (heq : kinds' = kinds) :
    Reached kinds' st := heq ▸ h

theorem File.kinds_concat (file : File) (item : Item) :
    File.kinds (file ++ [item]) = file.kinds ++ item.kinds := by
  simp [File.kinds]

theorem neighborKinds_concat (file : File) (address : Value) (body : NeighborBody)
    (x : NeighborStatement) :
    neighborKinds file address (body ++ [x]) = neighborKinds file address body ++ x.kinds := by
  simp [neighborKinds, NeighborBody.kinds]

/-! ## One token -/

variable {token : Token} {file : File} {name address : Value} {body : NeighborBody} {at' : Location}

theorem reached_of_top (hfile : file.Declares c) (hstep : State.step ⟨c, .top⟩ token = .ok st') :
    Reached (file.kinds ++ [token.kind]) st' := by
  simp only [State.step] at hstep
  split at hstep
  · rename_i hkind
    obtain rfl := Except.ok.inj hstep
    exact (Reached.top _ c (.separator file c hfile)).of_eq (by simp [File.kinds_concat, Item.kinds, hkind])
  · rename_i hkind
    obtain rfl := Except.ok.inj hstep
    exact (Reached.blockName file c hfile).of_eq (by rw [hkind])
  · rename_i hkind
    obtain rfl := Except.ok.inj hstep
    exact (Reached.neighborAddress file c hfile _).of_eq (by rw [hkind])
  · cases hstep

theorem reached_of_blockName (hfile : file.Declares c)
    (hstep : State.step ⟨c, .blockName⟩ token = .ok st') :
    Reached (file.kinds ++ [.word "family"] ++ [token.kind]) st' := by
  simp only [State.step] at hstep
  split at hstep
  · rename_i name hname
    obtain ⟨name, hkind, rfl⟩ := exists_value hname
    obtain rfl := Except.ok.inj hstep
    exact (Reached.blockOpen file c hfile name _).of_eq (by simp [hkind])
  · cases hstep

theorem reached_of_blockOpen (hfile : file.Declares c)
    (hstep : State.step ⟨c, .blockOpen name.text at'⟩ token = .ok st') :
    Reached (file.kinds ++ [.word "family", name.kind] ++ [token.kind]) st' := by
  simp only [State.step] at hstep
  split at hstep
  · rename_i hkind
    obtain rfl := Except.ok.inj hstep
    exact (Reached.block file c hfile name at' [] {} .statement within_nil).of_eq (by simp [hkind])
  · cases hstep

theorem reached_of_block (hfile : file.Declares c) {kinds : List TokenKind} {f : FamilyDeclaration}
    {place : FamilyPlace} (hwithin : Within kinds f place)
    (hstep : State.step ⟨c, .block name.text at' f place⟩ token = .ok st') :
    Reached (file.kinds ++ [.word "family", name.kind, .openBrace] ++ kinds ++ [token.kind]) st' := by
  obtain ⟨⟨g, next⟩, hplace, hnext⟩ := bind_eq_ok_iff.mp hstep
  have hleads := hwithin.step hplace
  cases next with
  | some place' =>
    obtain rfl := Except.ok.inj hnext
    exact (Reached.block file c hfile name at' _ g place' hleads).of_eq (by simp)
  | none =>
    obtain ⟨hkind, body, rfl, hbody⟩ := hleads
    obtain ⟨hnew, rfl⟩ := closeBlock_eq_ok_iff.mp hnext
    apply (Reached.top _ _ (.block file c hfile name body g.finish hnew hbody.declares)).of_eq
    simp [File.kinds_concat, Item.kinds, hkind]

theorem drafted_nil {blocks : List (String × Families)} {a : Address} {start : Location} {text : String}
    {at' : Location} (ha : Address.parse? address.text = some a) :
    Drafted blocks address [] { start, address := a, addressText := text, addressLocation := at' } where
  address := ha
  sets :=
    { distinct := .nil
      values := by
        intro s
        cases s with
        | description => rfl
        | family => trivial
        | _ => exact .none
      families := .none }

theorem reached_of_neighborAddress (hfile : file.Declares c)
    (hstep : State.step ⟨c, .neighborAddress at'⟩ token = .ok st') :
    Reached (file.kinds ++ [.word "neighbor"] ++ [token.kind]) st' := by
  simp only [State.step] at hstep
  split at hstep
  · cases hstep
  · rename_i text hname
    obtain ⟨address, hkind, rfl⟩ := exists_value hname
    split at hstep
    · cases hstep
    · rename_i a ha
      obtain rfl := Except.ok.inj hstep
      exact (Reached.neighborOpen file c hfile address _ (drafted_nil ha)).of_eq (by simp [hkind])

theorem reached_of_neighborOpen (hfile : file.Declares c) (hd : Drafted c.blocks address [] d)
    (hstep : State.step ⟨c, .neighborOpen d⟩ token = .ok st') :
    Reached (file.kinds ++ [.word "neighbor", address.kind] ++ [token.kind]) st' := by
  simp only [State.step] at hstep
  split at hstep
  · rename_i hkind
    obtain rfl := Except.ok.inj hstep
    exact (Reached.neighbor file c hfile address [] d hd).of_eq (by simp [neighborKinds, hkind])
  · cases hstep

theorem reached_of_neighbor (hfile : file.Declares c) (hd : Drafted c.blocks address body d)
    (hstep : State.step ⟨c, .neighbor d⟩ token = .ok st') :
    Reached (neighborKinds file address body ++ [token.kind]) st' := by
  simp only [State.step] at hstep
  split at hstep
  · rename_i hkind
    obtain ⟨n, hclose, hreturn⟩ := bind_eq_ok_iff.mp hstep
    obtain rfl := Except.ok.inj hreturn
    obtain ⟨hnew, haddress, hmake⟩ := close_eq_ok_iff.mp hclose
    rw [haddress] at hnew
    have hbody : body.Declares c.blocks address n := ⟨haddress ▸ hd.address, d.slots, hd.sets, hmake⟩
    apply (Reached.top _ _ (.neighbor file c hfile address body n hbody hnew)).of_eq
    simp [File.kinds_concat, Item.kinds, neighborKinds, hkind]
  · rename_i hkind
    obtain rfl := Except.ok.inj hstep
    apply (Reached.neighbor file c hfile address _ d ⟨hd.address, hd.sets.separator⟩).of_eq
    rw [neighborKinds_concat, NeighborStatement.kinds, hkind]
  · rename_i word hkind
    split at hstep
    · cases hstep
    · rename_i hword
      obtain rfl := Except.ok.inj hstep
      rw [hkind, ← Statement.ofKeyword?_eq_some_iff.mp hword]
      exact .familyReference file c hfile address body d hd _
    · rename_i s hs hword
      obtain rfl := Except.ok.inj hstep
      rw [hkind, ← Statement.ofKeyword?_eq_some_iff.mp hword]
      exact .value file c hfile address body d hd s hs _
  · cases hstep

theorem reached_of_value (hfile : file.Declares c) (hd : Drafted c.blocks address body d) {s : Statement}
    (hs : s ≠ .family) (hstep : State.step ⟨c, .value d s at'⟩ token = .ok st') :
    Reached (neighborKinds file address body ++ [.word s.keyword] ++ [token.kind]) st' := by
  simp only [State.step] at hstep
  split at hstep
  · cases hstep
  · rename_i text hname
    obtain ⟨v, hkind, rfl⟩ := exists_value hname
    obtain ⟨d', hset, hreturn⟩ := bind_eq_ok_iff.mp hstep
    obtain rfl := Except.ok.inj hreturn
    obtain ⟨hsets, haddress⟩ := hd.sets.of_set hs hset
    apply (Reached.neighbor file c hfile address _ d' ⟨haddress ▸ hd.address, hsets⟩).of_eq
    simp [neighborKinds_concat, NeighborStatement.kinds, hkind]

theorem Drafted.family {blocks : List (String × Families)} (hd : Drafted blocks address body d)
    {source : FamilySource} {f : Families} (hmeans : source.Means blocks f) {d' : Draft}
    (hset : d.setFamilies f at' = .ok d') :
    Drafted blocks address (body ++ [.family source]) d' := by
  obtain ⟨hnone, rfl⟩ := setFamilies_eq_ok_iff.mp hset
  exact ⟨hd.address, hd.sets.family hnone hmeans⟩

theorem reached_of_familyReference (hfile : file.Declares c) (hd : Drafted c.blocks address body d)
    (hstep : State.step ⟨c, .familyReference d at'⟩ token = .ok st') :
    Reached (neighborKinds file address body ++ [.word Statement.family.keyword] ++ [token.kind]) st' := by
  simp only [State.step] at hstep
  split at hstep
  · rename_i hkind
    obtain rfl := Except.ok.inj hstep
    exact (Reached.inline file c hfile address body d hd at' [] {} _ within_nil).of_eq (by simp [hkind])
  · rename_i name hkind
    split at hstep
    · cases hstep
    · rename_i f hblock
      obtain ⟨d', hset, hreturn⟩ := bind_eq_ok_iff.mp hstep
      obtain rfl := Except.ok.inj hreturn
      have hmeans : FamilySource.Means c.blocks (.reference name) f := hblock
      apply (Reached.neighbor file c hfile address _ d' (hd.family hmeans hset)).of_eq
      simp [neighborKinds_concat, NeighborStatement.kinds, FamilySource.kinds, hkind]
  · cases hstep

theorem reached_of_inline (hfile : file.Declares c) (hd : Drafted c.blocks address body d)
    {kinds : List TokenKind} {f : FamilyDeclaration} {place : FamilyPlace} (hwithin : Within kinds f place)
    (hstep : State.step ⟨c, .inline d at' f place⟩ token = .ok st') :
    Reached (neighborKinds file address body ++ [.word Statement.family.keyword, .openBrace] ++ kinds ++
      [token.kind]) st' := by
  obtain ⟨⟨g, next⟩, hplace, hnext⟩ := bind_eq_ok_iff.mp hstep
  have hleads := hwithin.step hplace
  cases next with
  | some place' =>
    obtain rfl := Except.ok.inj hnext
    exact (Reached.inline file c hfile address body d hd at' _ g place' hleads).of_eq (by simp)
  | none =>
    obtain ⟨hkind, inside, rfl, hinside⟩ := hleads
    obtain ⟨d', hset, hreturn⟩ := bind_eq_ok_iff.mp hnext
    obtain rfl := Except.ok.inj hreturn
    have hmeans : FamilySource.Means c.blocks (.inline inside) g.finish := hinside.declares
    apply (Reached.neighbor file c hfile address _ d' (hd.family hmeans hset)).of_eq
    simp [neighborKinds_concat, NeighborStatement.kinds, FamilySource.kinds, hkind]

theorem Reached.step {kinds : List TokenKind} (h : Reached kinds st) (hstep : st.step token = .ok st') :
    Reached (kinds ++ [token.kind]) st' := by
  cases h with
  | top file c hfile => exact reached_of_top hfile hstep
  | blockName file c hfile => exact reached_of_blockName hfile hstep
  | blockOpen file c hfile name at' => exact reached_of_blockOpen hfile hstep
  | block file c hfile name at' kinds f place hwithin => exact reached_of_block hfile hwithin hstep
  | neighborAddress file c hfile start => exact reached_of_neighborAddress hfile hstep
  | neighborOpen file c hfile address d hd => exact reached_of_neighborOpen hfile hd hstep
  | neighbor file c hfile address body d hd => exact reached_of_neighbor hfile hd hstep
  | value file c hfile address body d hd s hs at' => exact reached_of_value hfile hd hs hstep
  | familyReference file c hfile address body d hd at' => exact reached_of_familyReference hfile hd hstep
  | inline file c hfile address body d hd at' kinds f place hwithin =>
    exact reached_of_inline hfile hd hwithin hstep

theorem Reached.read {kinds : List TokenKind} {tokens : List Token} (h : Reached kinds st)
    (hread : tokens.foldlM State.step st = .ok st') : Reached (kinds ++ tokens.map (·.kind)) st' := by
  induction tokens generalizing st kinds with
  | nil =>
    obtain rfl := Except.ok.inj hread
    exact h.of_eq (List.append_nil _)
  | cons token rest ih =>
    obtain ⟨next, hstep, hrest⟩ := bind_eq_ok_iff.mp hread
    exact (ih (h.step hstep) hrest).of_eq (by simp)

/-- Tokens that are accepted are those of a file that declares the configuration. -/
theorem exists_file_of_ofTokens {tokens : List Token} (h : Configuration.ofTokens tokens = .ok c) :
    ∃ file : File, tokens.map (·.kind) = file.kinds ∧ file.Declares c := by
  obtain ⟨st, hread, hfinish⟩ := bind_eq_ok_iff.mp h
  have hreached := (Reached.top [] {} .nil).read hread
  generalize hkinds : File.kinds [] ++ tokens.map (·.kind) = kinds at hreached
  cases hreached with
  | top file c' hfile =>
    obtain rfl := Except.ok.inj hfinish
    exact ⟨file, hkinds, hfile⟩
  -- Within an item the tokens may not end.
  | _ => cases hfinish

/-! ## Reading a file -/

theorem block_embeds (name : String) (nameAt : Location) :
    Embeds fun f place => ⟨c, .block name nameAt f place⟩ := by
  intro f place token g place' hstep
  simp only [State.step, hstep]
  rfl

theorem step_word_family (htoken : token.kind = .word "family") :
    State.step ⟨c, .top⟩ token = .ok ⟨c, .blockName⟩ := by
  simp only [State.step, htoken]

theorem step_word_neighbor (htoken : token.kind = .word "neighbor") :
    State.step ⟨c, .top⟩ token = .ok ⟨c, .neighborAddress token.location⟩ := by
  simp only [State.step, htoken]

theorem exists_tokens {tokens : List Token} {keyword : String} {inside : List TokenKind}
    (h : tokens.map (·.kind) = [.word keyword, name.kind, .openBrace] ++ inside ++ [.closeBrace]) :
    ∃ first second brace statements last,
      tokens = first :: second :: brace :: (statements ++ [last]) ∧ first.kind = .word keyword ∧
        second.kind = name.kind ∧ brace.kind = .openBrace ∧ statements.map (·.kind) = inside ∧
          last.kind = .closeBrace := by
  obtain ⟨first, later, rfl, hfirst, hlater⟩ := List.map_eq_cons_iff.mp h
  obtain ⟨second, later, rfl, hsecond, hlater⟩ := List.map_eq_cons_iff.mp hlater
  obtain ⟨brace, later, rfl, hbrace, hlater⟩ := List.map_eq_cons_iff.mp hlater
  obtain ⟨statements, closing, rfl, hstatements, hclosing⟩ := List.map_eq_append_iff.mp hlater
  obtain ⟨last, rfl, hlast⟩ := List.map_eq_singleton_iff.mp hclosing
  exact ⟨first, second, brace, statements, last, rfl, hfirst, hsecond, hbrace, hstatements, hlast⟩

theorem read_block {inside : FamilyBody} {f : Families} (hinside : inside.Declares f)
    (hnew : ∀ entry ∈ c.blocks, entry.1 ≠ name.text) {tokens : List Token}
    (htokens : tokens.map (·.kind) = (Item.block name inside).kinds) :
    tokens.foldlM State.step ⟨c, .top⟩ =
      .ok ⟨{ c with blocks := c.blocks ++ [(name.text, f)] }, .top⟩ := by
  obtain ⟨keyword, naming, brace, statements, last, rfl, hkeyword, hnaming, hbrace, hstatements, hlast⟩ :=
    exists_tokens htokens
  have hname : State.step ⟨c, .blockName⟩ naming = .ok ⟨c, .blockOpen name.text naming.location⟩ := by
    simp only [State.step, hnaming, nameOf?_kind]
  have hopen : State.step ⟨c, .blockOpen name.text naming.location⟩ brace =
      .ok ⟨c, .block name.text naming.location {} .statement⟩ := by
    simp only [State.step, hbrace, if_true]
  obtain ⟨g, hcollects, rfl⟩ := FamilyBody.declares_iff.mp hinside
  have hread := (block_embeds (c := c) name.text naming.location).statements FamilyBody.collects_nil
    hcollects hstatements
  have hclose : State.step ⟨c, .block name.text naming.location g .statement⟩ last =
      .ok ⟨{ c with blocks := c.blocks ++ [(name.text, g.finish)] }, .top⟩ := by
    simp only [State.step, FamilyPlace.step, hlast]
    exact bind_eq_ok_iff.mpr ⟨_, rfl, closeBlock_eq_ok_iff.mpr ⟨hnew, rfl⟩⟩
  rw [read_cons (step_word_family hkeyword), read_cons hname, read_cons hopen, read_append hread,
    read_cons hclose]
  rfl

theorem read_opening {keyword naming brace : Token} (hkeyword : keyword.kind = .word "neighbor")
    (hnaming : naming.kind = address.kind) (hbrace : brace.kind = .openBrace) {a : Address}
    (haddress : Address.parse? address.text = some a) :
    ∃ d, [keyword, naming, brace].foldlM State.step ⟨c, .top⟩ = .ok ⟨c, .neighbor d⟩ ∧
      Drafted c.blocks address [] d ∧ d.address = a := by
  let d : Draft :=
    { start := keyword.location, address := a, addressText := address.text, addressLocation := naming.location }
  have hname : State.step ⟨c, .neighborAddress keyword.location⟩ naming = .ok ⟨c, .neighborOpen d⟩ := by
    simp only [State.step, hnaming, nameOf?_kind, haddress, d]
  have hopen : State.step ⟨c, .neighborOpen d⟩ brace = .ok ⟨c, .neighbor d⟩ := by
    simp only [State.step, hbrace, if_true]
  refine ⟨d, ?_, drafted_nil haddress, rfl⟩
  rw [read_cons (step_word_neighbor hkeyword), read_cons hname, read_cons hopen]
  rfl

theorem read_neighbor (hbody : body.Declares c.blocks address n)
    (hnew : ∀ earlier ∈ c.neighbors, earlier.peerAddress ≠ n.peerAddress) {tokens : List Token}
    (htokens : tokens.map (·.kind) = (Item.neighbor address body).kinds) :
    tokens.foldlM State.step ⟨c, .top⟩ = .ok ⟨{ c with neighbors := c.neighbors ++ [n] }, .top⟩ := by
  obtain ⟨keyword, naming, brace, statements, last, rfl, hkeyword, hnaming, hbrace, hstatements, hlast⟩ :=
    exists_tokens htokens
  obtain ⟨haddress, slots, hsets, hmake⟩ := hbody
  obtain ⟨d, hopening, hd, hdraft⟩ := read_opening (c := c) hkeyword hnaming hbrace haddress
  have hall : NeighborBody.Sets c.blocks ([] ++ body) slots := hsets
  -- The draft has the slots of the whole block, which make the neighbor.
  obtain ⟨d', hread, rfl, hkept⟩ := read_statements hd.sets hall hstatements
  have hpeer : d'.address = n.peerAddress := hkept.trans hdraft
  have hclose : State.step ⟨c, .neighbor d'⟩ last =
      .ok ⟨{ c with neighbors := c.neighbors ++ [n] }, .top⟩ := by
    have hfinal : d'.close c.neighbors = .ok n :=
      close_eq_ok_iff.mpr ⟨hpeer ▸ hnew, hpeer, hmake⟩
    simp only [State.step, hlast, State.closeNeighbor]
    exact bind_eq_ok_iff.mpr ⟨n, hfinal, rfl⟩
  have hsplit : keyword :: naming :: brace :: (statements ++ [last]) =
      [keyword, naming, brace] ++ (statements ++ [last]) := rfl
  rw [hsplit, read_append hopening, read_append hread, read_cons hclose]
  rfl

/-- The tokens of a file are read to the configuration that it declares. -/
theorem File.Declares.read (hfile : file.Declares c) {tokens : List Token}
    (htokens : tokens.map (·.kind) = file.kinds) :
    tokens.foldlM State.step {} = .ok ⟨c, .top⟩ := by
  induction hfile generalizing tokens with
  | nil =>
    obtain rfl := List.map_eq_nil_iff.mp htokens
    rfl
  | separator file c hfile ih =>
    rw [kinds_concat] at htokens
    obtain ⟨early, late, rfl, hearly, hlate⟩ := List.map_eq_append_iff.mp htokens
    obtain ⟨token, rfl, hkind⟩ := List.map_eq_singleton_iff.mp hlate
    have hstep : State.step ⟨c, .top⟩ token = .ok ⟨c, .top⟩ := by
      simp only [State.step, hkind]
    rw [read_append (ih hearly), read_cons hstep]
    rfl
  | block file c hfile name body families hname hbody ih =>
    rw [kinds_concat] at htokens
    obtain ⟨early, late, rfl, hearly, hlate⟩ := List.map_eq_append_iff.mp htokens
    rw [read_append (ih hearly), read_block hbody hname hlate]
  | neighbor file c hfile address body n hbody haddress ih =>
    rw [kinds_concat] at htokens
    obtain ⟨early, late, rfl, hearly, hlate⟩ := List.map_eq_append_iff.mp htokens
    rw [read_append (ih hearly), read_neighbor hbody haddress hlate]

theorem File.Declares.ofTokens (hfile : file.Declares c) {tokens : List Token}
    (htokens : tokens.map (·.kind) = file.kinds) : Configuration.ofTokens tokens = .ok c :=
  bind_eq_ok_iff.mpr ⟨_, hfile.read htokens, rfl⟩

/-- The accepted token lists are the files that declare a configuration, and the result is that one. -/
theorem ofTokens_eq_ok_iff (tokens : List Token) (c : Configuration) :
    Configuration.ofTokens tokens = .ok c ↔
      ∃ file : File, tokens.map (·.kind) = file.kinds ∧ file.Declares c := by
  constructor
  · exact exists_file_of_ofTokens
  · rintro ⟨file, htokens, hfile⟩
    exact hfile.ofTokens htokens

end Grammar

end RouteServer.Config
