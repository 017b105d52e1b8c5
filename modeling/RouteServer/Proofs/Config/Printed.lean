import RouteServer.Proofs.Address.Text
import RouteServer.Proofs.Config.Declared
import RouteServer.Proofs.Text

/-! # Printed neighbors are read back

The block of a neighbor is the text of an item, which declares the neighbor again. The items of different
neighbors declare the configuration that has these neighbors and no named blocks.
-/

namespace RouteServer

open Config Config.Grammar

/-! ## The item of a neighbor -/

def Config.Grammar.AfiWord.of (afi : Afi) : AfiWord := ⟨afi.render, afi, by cases afi <;> rfl⟩

def Config.Grammar.SafiWord.of (safi : Safi) : SafiWord := ⟨safi.render, safi, by cases safi <;> rfl⟩

/-- One list for each address family that has something declared. -/
def Families.body (f : Families) : FamilyBody :=
  (Afi.all.filter fun afi => f.safis afi ≠ []).flatMap fun afi =>
    [.list (.of afi) ((f.safis afi).map .of), .separator]

/-- A statement, if it has a value. -/
def Config.Grammar.optional (s : Statement) (hs : s ≠ .family) (v? : Option Value) : NeighborBody :=
  (v?.map fun value => [.setting s hs value, .separator]).getD []

def Config.Grammar.familyStatement (f : Families) : NeighborBody :=
  if f.isEmpty then [] else [.family (.inline f.body)]

namespace Neighbor

def address (n : Neighbor) : Value := .bare n.peerAddress.render

def body (n : Neighbor) : NeighborBody :=
  optional .description (by decide) (n.description.map .quoted) ++
    optional .routerId (by decide) (n.routerId.map fun r => .bare r.render) ++
    optional .localAddress (by decide) (n.localAddress.map fun a => .bare a.render) ++
    optional .localAs (by decide) (some (.bare (toString n.localAs.toNat))) ++
    optional .peerAs (by decide) (some (.bare (toString n.peerAs.toNat))) ++
    optional .holdTime (by decide) (some (.bare (toString n.holdTime.toNat))) ++
    familyStatement n.families

def item (n : Neighbor) : Item := .neighbor n.address n.body

end Neighbor

/-! ## What the item declares -/

theorem Families.pairs_body (f : Families) : f.body.pairs = f.toList := by
  rw [Families.body, Families.toList_eq]
  generalize Afi.all = afis
  induction afis with
  | nil => rfl
  | cons afi rest ih =>
    have hpairs : FamilyBody.pairs [.list (.of afi) ((f.safis afi).map .of), .separator] =
        (f.safis afi).map (Family.mk afi) := by
      simp [FamilyStatement.pairs, AfiWord.of, SafiWord.of]
    rw [List.filter_cons, List.flatMap_cons]
    split
    · rw [List.flatMap_cons, FamilyBody.pairs_append, ih, hpairs]
    · rename_i hnone
      have hnil : f.safis afi = [] := by simpa using hnone
      rw [ih, hnil]
      rfl

theorem Families.IsDeclared.body_declares {f : Families} (h : f.IsDeclared) : f.body.Declares f := by
  obtain ⟨pairs, hpairs, rfl⟩ := h
  have hdeclarable := declarable_toList hpairs
  have hlisted := toList_ofList (ofList pairs).toList
  rw [ofList_toList] at hlisted
  constructor
  · exact (pairs_body _).symm ▸ hdeclarable.implemented
  · exact (pairs_body _).symm ▸ hdeclarable.distinct
  · rw [pairs_body, ← hlisted]

namespace Config.Grammar

variable {s s' : Statement} {hs : s ≠ .family} {v? : Option Value} {f : Families}

theorem value?_optional :
    (optional s hs v?).value? s' = if s = s' then v?.map Value.text else none := by
  cases v? <;> by_cases h : s = s' <;> simp [optional, NeighborBody.value?, NeighborStatement.valueFor?, h]

theorem source?_optional : (optional s hs v?).source? = none := by
  cases v? <;> rfl

theorem statements_optional_sublist : (optional s hs v?).statements.Sublist [s] := by
  cases v? with
  | none => exact List.nil_sublist _
  | some value => exact .refl _

theorem value?_familyStatement : (familyStatement f).value? s = none := by
  unfold familyStatement
  split <;> rfl

theorem source?_familyStatement :
    (familyStatement f).source? = if f.isEmpty then none else some (.inline f.body) := by
  unfold familyStatement
  split <;> rfl

theorem statements_familyStatement_sublist : (familyStatement f).statements.Sublist [.family] := by
  unfold familyStatement
  split
  · exact List.nil_sublist _
  · exact .refl _

end Config.Grammar

namespace Neighbor

variable {n : Neighbor}

/-- The slots that the statements of the item set. -/
def slots (n : Neighbor) : Slots where
  description := n.description
  routerId := n.routerId
  localAddress := n.localAddress
  localAs := some n.localAs
  peerAs := some n.peerAs
  holdTime := some n.holdTime
  families := if n.families.isEmpty then none else some n.families

theorem statements_body_nodup (n : Neighbor) : n.body.statements.Nodup := by
  have hsublist : n.body.statements.Sublist Statement.all := by
    simp only [body, NeighborBody.statements_append]
    exact (((((statements_optional_sublist.append statements_optional_sublist).append
      statements_optional_sublist).append statements_optional_sublist).append
      statements_optional_sublist).append statements_optional_sublist).append
      statements_familyStatement_sublist
  have hall : Statement.all.Nodup := by decide
  exact hsublist.nodup hall

/-- The text that a statement of the item has. -/
def text? (n : Neighbor) : Statement → Option String
  | .description => n.description
  | .routerId => n.routerId.map IPv4.render
  | .localAddress => n.localAddress.map Address.render
  | .localAs => some (toString n.localAs.toNat)
  | .peerAs => some (toString n.peerAs.toNat)
  | .holdTime => some (toString n.holdTime.toNat)
  | .family => none

theorem value?_body (n : Neighbor) (s : Statement) : n.body.value? s = n.text? s := by
  simp only [body, NeighborBody.value?_append, value?_optional, value?_familyStatement]
  cases s <;> simp [text?, Value.text, Function.comp_def]

theorem holds_body (n : Neighbor) (s : Statement) : n.slots.Holds (n.body.value? s) s := by
  have hrel : ∀ {α : Type} {p : String → Option α} {render : α → String} (slot : Option α),
      (∀ value, p (render value) = some value) →
        Option.Rel (fun text value => p text = some value) (slot.map render) slot := by
    rintro α p render (_ | value) hread
    · exact .none
    · exact .some (hread value)
  rw [value?_body]
  cases s with
  | description => rfl
  | routerId => exact hrel n.routerId IPv4.parse?_render
  | localAddress => exact hrel n.localAddress Address.parse?_render
  | localAs => exact .some (Decimal.readUInt32?_toString n.localAs)
  | peerAs => exact .some (Decimal.readUInt32?_toString n.peerAs)
  | holdTime => exact .some (Decimal.readUInt16?_toString n.holdTime)
  | family => trivial

theorem source?_body (n : Neighbor) : n.body.source? = (familyStatement n.families).source? := by
  simp [body, NeighborBody.source?_append, source?_optional]

theorem body_sets (hn : n.IsDeclared) (blocks : List (String × Families)) :
    n.body.Sets blocks n.slots where
  distinct := n.statements_body_nodup
  values := n.holds_body
  families := by
    rw [source?_body, source?_familyStatement, slots]
    split
    · exact .none
    · exact .some hn.families.body_declares

theorem slots_make (n : Neighbor) : n.slots.Make n where
  description := rfl
  routerId := rfl
  localAddress := rfl
  localAs := rfl
  peerAs := rfl
  holdTime := rfl
  families := by
    rw [slots]
    split
    · rename_i hempty
      have hnil : n.families.toList = [] := Families.isEmpty_iff.mp hempty
      rw [← Families.ofList_toList n.families, hnil]
      rfl
    · rfl

theorem body_declares (hn : n.IsDeclared) (blocks : List (String × Families)) :
    n.body.Declares blocks n.address n where
  address := n.peerAddress.parse?_render
  sets := ⟨n.slots, body_sets hn blocks, n.slots_make⟩

end Neighbor

theorem Config.Grammar.items_declare_append {early later : List Neighbor}
    (hearly : File.Declares (early.map Neighbor.item) (.ofNeighbors early))
    (hdeclared : ∀ n ∈ later, n.IsDeclared)
    (hdistinct : (early ++ later).Pairwise fun a b => a.peerAddress ≠ b.peerAddress) :
    File.Declares ((early ++ later).map Neighbor.item) (.ofNeighbors (early ++ later)) := by
  induction later generalizing early with
  | nil => simpa using hearly
  | cons n rest ih =>
    have hnew : ∀ earlier ∈ early, earlier.peerAddress ≠ n.peerAddress := fun earlier hearlier =>
      (List.pairwise_append.mp hdistinct).2.2 earlier hearlier n List.mem_cons_self
    have hbody := Neighbor.body_declares (hdeclared n List.mem_cons_self) []
    have hnext : File.Declares ((early ++ [n]).map Neighbor.item) (.ofNeighbors (early ++ [n])) := by
      rw [List.map_append]
      exact .neighbor _ _ hearly n.address n.body n hbody hnew
    rw [List.append_cons] at hdistinct ⊢
    exact ih hnext (fun m hm => hdeclared m (List.mem_cons_of_mem n hm)) hdistinct

theorem Config.Grammar.items_declare {ns : List Neighbor} (hdeclared : ∀ n ∈ ns, n.IsDeclared)
    (hdistinct : ns.Pairwise fun a b => a.peerAddress ≠ b.peerAddress) :
    File.Declares (ns.map Neighbor.item) (.ofNeighbors ns) := by
  have hnil : File.Declares (([] : List Neighbor).map Neighbor.item) (.ofNeighbors []) := .nil
  exact items_declare_append hnil hdeclared hdistinct

/-! ## The lines of the item -/

namespace Config

/-- Lines that give tokens of the kinds, line by line. -/
inductive Lined : List String → List TokenKind → Prop
  | nil : Lined [] []
  | cons (line : String) (kinds : List TokenKind) (hline : Text.IsLine line)
    (hwrites : Writes line.toList kinds) (lines : List String) (more : List TokenKind)
    (hlines : Lined lines more) : Lined (line :: lines) (kinds ++ more)

namespace Lined

variable {a b lines : List String} {ka kb kinds kinds' : List TokenKind} {line : String}

theorem of_eq (h : Lined lines kinds) (heq : kinds' = kinds) : Lined lines kinds' := heq ▸ h

theorem append (ha : Lined a ka) (hb : Lined b kb) : Lined (a ++ b) (ka ++ kb) := by
  induction ha with
  | nil => exact hb
  | cons line kinds hline hwrites lines more hlines ih =>
    rw [List.append_assoc]
    exact .cons line kinds hline hwrites _ _ ih

theorem single (hline : Text.IsLine line) (hwrites : Writes line.toList kinds) : Lined [line] kinds := by
  simpa using Lined.cons line kinds hline hwrites [] [] .nil

theorem isLine (h : Lined lines kinds) : ∀ line ∈ lines, Text.IsLine line := by
  induction h with
  | nil => rintro line (_ | _)
  | cons line kinds hline hwrites lines more hlines ih => exact List.forall_mem_cons.mpr ⟨hline, ih⟩

theorem writes (h : Lined lines kinds) : Writes ("\n".intercalate lines).toList kinds := by
  rw [String.toList_intercalate]
  induction h with
  | nil => exact .nil
  | cons line kinds hline hwrites lines more hlines ih =>
    cases hlines with
    | nil => simpa using hwrites
    | cons next kinds' hnext hwrites' later more' hlater =>
      rw [List.map_cons, List.map_cons, List.intercalate_cons_cons, List.append_assoc]
      exact hwrites.append (Writes.feed.append ih)

end Lined

theorem isBare_keyword (s : Statement) : IsBare s.keyword := by
  cases s <;> decide

theorem isBare_afi (afi : Afi) : IsBare afi.render := by
  cases afi <;> decide

theorem isBare_safi (safi : Safi) : IsBare safi.render := by
  cases safi <;> decide

theorem isBare_of_alphabet {word : String} (hne : word ≠ "")
    (h : ∀ c ∈ word.toList, c ∈ Address.alphabet) : IsBare word where
  nonempty := hne
  unbroken c hc := by
    have hall : Address.alphabet.any ScanMode.endsWord = false := by decide
    exact Bool.eq_false_iff.mpr (List.any_eq_false.mp hall c (h c hc))

theorem isBare_address (a : Address) : IsBare a.render :=
  isBare_of_alphabet a.render_ne_empty fun _ => Address.mem_render

theorem isBare_toString (k : Nat) : IsBare (toString k) :=
  isBare_of_alphabet (Decimal.toString_ne_empty k) fun _ => Address.mem_alphabet_of_mem_toString

/-- A value that is written on one line before a semicolon. -/
structure WritesValue (text : String) (v : Value) : Prop where
  unbroken : '\n' ∉ text.toList
  writes : Writes (text.toList ++ [';']) [v.kind, .semicolon]

theorem writesValue_bare {word : String} (hword : IsBare word) : WritesValue word (.bare word) where
  unbroken := hword.notMem_feed
  writes := Writes.word hword rfl .semicolon

theorem writesValue_quoted {text : String} (htext : Plain text.toList) :
    WritesValue ("\"" ++ text ++ "\"") (.quoted text) where
  unbroken := by
    simp only [String.toList_append, List.mem_append, not_or]
    exact ⟨⟨by decide, fun hmem => (htext _ hmem).2 rfl⟩, by decide⟩
  writes := by simpa [Value.kind] using (Writes.quoted htext).append .semicolon

theorem isLine_mark : ∀ mark ∈ [";", " \x7b", " ];"], Text.IsLine mark := by
  simp only [List.forall_mem_cons]
  exact ⟨⟨by decide, _, rfl, by decide⟩, ⟨by decide, _, rfl, by decide⟩,
    ⟨by decide, _, rfl, by decide⟩, by simp⟩

theorem writes_indent : Writes "    ".toList [] :=
  Writes.blank.append (Writes.blank.append (Writes.blank.append .blank))

theorem lined_statement {s : Statement} (hs : s ≠ .family) {text : String} {v : Value}
    (hv : WritesValue text v) :
    Lined [Neighbor.statement s.keyword text] (NeighborBody.kinds [.setting s hs v, .separator]) := by
  have hbare := isBare_keyword s
  apply Lined.single
  · refine Text.IsLine.append ?_ (isLine_mark ";" (by decide))
    simp only [String.toList_append, List.mem_append, not_or]
    exact ⟨⟨⟨by decide, hbare.notMem_feed⟩, by decide⟩, hv.unbroken⟩
  · have hline := writes_indent.append (Writes.word hbare rfl (Writes.blank.append hv.writes))
    simpa [Neighbor.statement, NeighborStatement.kinds] using hline

theorem lined_optional {s : Statement} (hs : s ≠ .family) {α : Type} (slot : Option α)
    {text : α → String} {value : α → Value} (hv : ∀ a, slot = some a → WritesValue (text a) (value a)) :
    Lined (slot.map fun a => Neighbor.statement s.keyword (text a)).toList
      (optional s hs (slot.map value)).kinds := by
  cases slot with
  | none => exact .nil
  | some a => exact lined_statement hs (hv a rfl)

theorem lined_list (afi : Afi) (safis : List Safi) :
    Lined ["        " ++ afi.render ++ " [ " ++ Text.unwords (safis.map Safi.render) ++ " ];"]
      (FamilyBody.kinds [.list (.of afi) (safis.map .of), .separator]) := by
  have hwords : ∀ w ∈ safis.map Safi.render, IsBare w := by
    intro w hw
    obtain ⟨safi, -, rfl⟩ := List.mem_map.mp hw
    exact isBare_safi safi
  have hunbroken : '\n' ∉ (Text.unwords (safis.map Safi.render)).toList := by
    intro hmem
    rw [Text.unwords, String.toList_intercalate] at hmem
    rcases Lists.mem_of_mem_intercalate hmem with hblank | ⟨text, htext, hmem⟩
    · cases List.mem_singleton.mp hblank
    · obtain ⟨w, hw, rfl⟩ := List.mem_map.mp htext
      exact (hwords w hw).notMem_feed hmem
  apply Lined.single
  · refine Text.IsLine.append ?_ (isLine_mark " ];" (by decide))
    simp only [String.toList_append, List.mem_append, not_or]
    exact ⟨⟨⟨by decide, (isBare_afi afi).notMem_feed⟩, by decide⟩, hunbroken⟩
  · have hsafis := (Writes.words hwords).append (Writes.closeBracket.append .semicolon)
    have hlist := Writes.blank.append (Writes.openBracket.append (Writes.blank.append hsafis))
    have hline := (writes_indent.append writes_indent).append (Writes.word (isBare_afi afi) rfl hlist)
    simpa [FamilyStatement.kinds, AfiWord.of, SafiWord.of, Function.comp_def] using hline

theorem lined_families (f : Families) :
    Lined (Neighbor.familyLines f) (familyStatement f).kinds := by
  unfold Neighbor.familyLines familyStatement
  split
  · exact .nil
  · have hlists : Lined ((Afi.all.filter fun afi => f.safis afi ≠ []).map fun afi =>
        "        " ++ afi.render ++ " [ " ++ Text.unwords ((f.safis afi).map Safi.render) ++ " ];")
        f.body.kinds := by
      unfold Families.body
      generalize Afi.all.filter (fun afi => f.safis afi ≠ []) = afis
      induction afis with
      | nil => exact .nil
      | cons afi rest ih =>
        rw [List.flatMap_cons, FamilyBody.kinds_append]
        exact (lined_list afi (f.safis afi)).append ih
    have hfamily := Writes.word (isBare_keyword .family) rfl (Writes.blank.append .openBrace)
    have hopen : Lined ["    family \x7b"] [.word "family", .openBrace] :=
      .single ⟨by decide, _, rfl, by decide⟩ (writes_indent.append hfamily)
    have hclose : Lined ["    \x7d"] [.closeBrace] :=
      .single ⟨by decide, _, rfl, by decide⟩ (writes_indent.append .closeBrace)
    simpa [NeighborStatement.kinds, FamilySource.kinds, Statement.keyword] using
      (hopen.append hlists).append hclose

theorem lined_number {s : Statement} (hs : s ≠ .family) (k : Nat) :
    Lined [Neighbor.statement s.keyword (toString k)] (optional s hs (some (.bare (toString k)))).kinds :=
  lined_statement hs (writesValue_bare (isBare_toString k))

theorem lined_opening (n : Neighbor) : Lined ["neighbor " ++ n.peerAddress.render ++ " \x7b"]
    [.word "neighbor", n.address.kind, .openBrace] := by
  have hbare : IsBare "neighbor" := by decide
  have haddress := isBare_address n.peerAddress
  apply Lined.single
  · refine Text.IsLine.append ?_ (isLine_mark " \x7b" (by decide))
    rw [String.toList_append, List.mem_append, not_or]
    exact ⟨by decide, haddress.notMem_feed⟩
  · have hbrace := Writes.word haddress rfl (Writes.blank.append .openBrace)
    have hline := Writes.word hbare rfl (Writes.blank.append hbrace)
    simpa [Neighbor.address, Value.kind] using hline

theorem lined_neighbor {n : Neighbor} (hn : n.IsDeclared) : Lined n.blockLines n.item.kinds := by
  have hdescription := lined_optional (s := .description) (by decide) n.description fun text htext =>
    writesValue_quoted (hn.description text htext)
  have hrouterId := lined_optional (s := .routerId) (by decide) n.routerId fun r _ =>
    writesValue_bare (isBare_address (.v4 r))
  have hlocalAddress := lined_optional (s := .localAddress) (by decide) n.localAddress fun a _ =>
    writesValue_bare (isBare_address a)
  have hlocalAs := lined_number (s := .localAs) (by decide) n.localAs.toNat
  have hpeerAs := lined_number (s := .peerAs) (by decide) n.peerAs.toNat
  have hholdTime := lined_number (s := .holdTime) (by decide) n.holdTime.toNat
  have hclosing : Lined ["\x7d"] [.closeBrace] := .single ⟨by decide, _, rfl, by decide⟩ .closeBrace
  have hslots := ((lined_opening n).append hdescription).append hrouterId |>.append hlocalAddress
  have hnumbers := hlocalAs.append (hpeerAs.append hholdTime)
  refine (((hslots.append hnumbers).append (lined_families n.families)).append hclosing).of_eq ?_
  simp only [Neighbor.item, Item.kinds, Neighbor.body, NeighborBody.kinds_append, List.append_assoc]
  rfl

theorem lined_neighbors {ns : List Neighbor} (h : ∀ n ∈ ns, n.IsDeclared) :
    Lined (ns.flatMap Neighbor.blockLines) (File.kinds (ns.map Neighbor.item)) := by
  induction ns with
  | nil => exact .nil
  | cons n rest ih =>
    have hrest := ih fun m hm => h m (List.mem_cons_of_mem n hm)
    rw [List.flatMap_cons]
    exact (lined_neighbor (h n List.mem_cons_self)).append hrest

end Config

theorem Neighbor.lines_render {n : Neighbor} (hn : n.IsDeclared) : Text.lines n.render = n.blockLines :=
  Text.lines_intercalate (lined_neighbor hn).isLine (by simp [blockLines])

/-- Printed neighbors are read back: all of them, in their order, field by field. -/
theorem Configuration.parse_blockLines {ns : List Neighbor} (hdeclared : ∀ n ∈ ns, n.IsDeclared)
    (hdistinct : ns.Pairwise fun a b => a.peerAddress ≠ b.peerAddress) :
    Configuration.parse ("\n".intercalate (ns.flatMap Neighbor.blockLines)) = .ok (.ofNeighbors ns) := by
  obtain ⟨tokens, hscan, hkinds⟩ := (lined_neighbors hdeclared).writes.spells .start
  have hread := (items_declare hdeclared hdistinct).ofTokens hkinds
  simp only [Configuration.parse, tokenize, hscan, hread]

end RouteServer
