import Mathlib.Data.List.Nodup
import RouteServer.Proofs.Config.Beginning
import RouteServer.Proofs.Config.Relocated

/-! # Blocks that are referenced

A family block has a bare word or a quoted string for its name. A neighbor in lines that are added behind a text
may have its families from each block of the text with a bare name. It may not name a block by a quoted string: the
reader of a reference only takes bare words.
-/

namespace RouteServer.Config

/-! ## Lines further down -/

/-- A place in lines that are added behind a text, counted from the start of the text. -/
def Location.below (text : String) (here : Location) : Location :=
  ⟨here.line + (text.toList.count '\n' + 1), here.column⟩

namespace ScanMode

variable {f : Location → Location} {mode : ScanMode} {here : Location} {cs : List Char} {tokens : List Token}

def relocate (f : Location → Location) : ScanMode → ScanMode
  | gap => .gap
  | comment => .comment
  | word start chars => .word (f start) chars
  | quoted start chars => .quoted (f start) chars

theorem begin_relocate (f : Location → Location) (here : Location) (c : Char) :
    begin (f here) c = ((begin here c).1.map (Token.relocate f), (begin here c).2.relocate f) := by
  unfold begin
  split
  · rfl
  · split
    · rfl
    · split
      · rfl
      · split <;> rfl

theorem step_relocate {c : Char} {next : ScanMode} (h : mode.step here c = .ok (tokens, next)) :
    (mode.relocate f).step (f here) c = .ok (tokens.map (Token.relocate f), next.relocate f) := by
  cases mode with
  | gap =>
    have hbegin : begin here c = (tokens, next) := Except.ok.inj h
    rw [relocate, step, begin_relocate, hbegin]
  | comment =>
    obtain ⟨rfl, rfl⟩ := Prod.mk.inj (Except.ok.inj h)
    rw [relocate, step]
    split <;> rfl
  | word start chars =>
    simp only [step] at h
    split at h
    · rename_i hends
      obtain ⟨rfl, rfl⟩ := Prod.mk.inj (Except.ok.inj h)
      simp only [relocate, step, hends, if_true, begin_relocate]
      rfl
    · rename_i hinside
      obtain ⟨rfl, rfl⟩ := Prod.mk.inj (Except.ok.inj h)
      simp only [relocate, step, hinside]
      rfl
  | quoted start chars =>
    simp only [step] at h
    split at h
    · rename_i hquote
      obtain ⟨rfl, rfl⟩ := Prod.mk.inj (Except.ok.inj h)
      simp only [relocate, step, hquote, if_true]
      rfl
    · rename_i hquote
      split at h
      · cases h
      · rename_i hfeed
        obtain ⟨rfl, rfl⟩ := Prod.mk.inj (Except.ok.inj h)
        simp only [relocate, step, hquote, hfeed, if_false]
        rfl

/-- A text is scanned alike from another place, as long as the places behind its characters move along. -/
theorem scan_relocate (hf : ∀ here c, (f here).advance c = f (here.advance c))
    (h : mode.scan here cs = .ok tokens) :
    (mode.relocate f).scan (f here) cs = .ok (tokens.map (Token.relocate f)) := by
  induction cs generalizing mode here tokens with
  | nil =>
    cases mode with
    | quoted start chars => cases h
    | _ =>
      obtain rfl := Except.ok.inj h
      rfl
  | cons c rest ih =>
    obtain ⟨⟨first, next⟩, hstep, hrest⟩ := bind_eq_ok_iff.mp h
    obtain ⟨more, hmore, hall⟩ := bind_eq_ok_iff.mp hrest
    obtain rfl := Except.ok.inj hall
    have hlater := ih hmore
    rw [← hf] at hlater
    rw [List.map_append]
    exact scan_cons (step_relocate hstep) hlater

end ScanMode

theorem Location.advance_below (text : String) (here : Location) (c : Char) :
    (here.below text).advance c = (here.advance c).below text := by
  unfold advance
  split <;> simp [below, Nat.add_right_comm]

theorem Location.line_foldl_advance (here : Location) (cs : List Char) :
    (cs.foldl advance here).line = here.line + cs.count '\n' := by
  induction cs generalizing here with
  | nil => rfl
  | cons c rest ih =>
    rw [List.foldl_cons, ih, advance]
    split
    · rename_i hc
      rw [hc, List.count_cons_self, Nat.add_right_comm, Nat.add_assoc]
    · rename_i hc
      rw [List.count_cons_of_ne hc]

theorem tokenize_added {text added : String} {tokens more : List Token} (htext : tokenize text = .ok tokens)
    (hadded : tokenize added = .ok more) : tokenize (text ++ "\n" ++ added) =
      .ok (tokens ++ more.map (Token.relocate (Location.below text))) := by
  have hscan : ScanMode.gap.scan (Location.start.below text) added.toList =
      .ok (more.map (Token.relocate (Location.below text))) :=
    ScanMode.scan_relocate (Location.advance_below text) hadded
  have hstart : (⟨(text.toList.foldl Location.advance .start).line + 1, 1⟩ : Location) =
      Location.start.below text := by
    rw [Location.line_foldl_advance]
    rfl
  rw [tokenize_append_feed, htext, hstart]
  exact bind_eq_ok_iff.mpr ⟨tokens, rfl, bind_eq_ok_iff.mpr ⟨_, hscan, rfl⟩⟩

namespace Grammar

variable {c : Configuration} {file : File} {name address : Value} {body : FamilyBody}
  {before after : NeighborBody} {n : Neighbor} {f : Families}

/-! ## The block that is named -/

theorem File.Declares.exists_block (hfile : file.Declares c) (hmem : .block name body ∈ file) :
    ∃ f, c.block? name.text = some f ∧ body.Declares f := by
  induction hfile with
  | nil => cases hmem
  | separator file c hfile ih =>
    rcases List.mem_append.mp hmem with hearlier | hlast
    · exact ih hearlier
    · cases List.mem_singleton.mp hlast
  | block file c hfile name' body' families hname hbody ih =>
    rcases List.mem_append.mp hmem with hearlier | hlast
    · obtain ⟨f, hblock, hdeclares⟩ := ih hearlier
      refine ⟨f, ?_, hdeclares⟩
      rw [Configuration.block?, List.lookup_append, ← Configuration.block?, hblock]
      rfl
    · cases List.mem_singleton.mp hlast
      have hunnamed : c.block? name.text = none := by
        rw [← Option.not_isSome_iff_eq_none, Bool.not_eq_true]
        exact block?_isSome_eq_false_iff.mpr hname
      refine ⟨families, ?_, hbody⟩
      rw [Configuration.block?, List.lookup_append, ← Configuration.block?, hunnamed, Option.none_or]
      exact List.lookup_cons_self
  | neighbor file c hfile address body' n hbody haddress ih =>
    rcases List.mem_append.mp hmem with hearlier | hlast
    · exact ih hearlier
    · cases List.mem_singleton.mp hlast

/-! ## The neighbor that names it -/

/-- A text is a neighbor block with a family statement among its statements, and the token of the statement. -/
def Refers (text : String) (address : Value) (before : NeighborBody) (reference : Token)
    (after : NeighborBody) : Prop :=
  ∃ opening closing, tokenize text = .ok (opening ++ reference :: closing) ∧
    opening.map (·.kind) =
      [.word "neighbor", address.kind, .openBrace] ++ before.kinds ++ [.word Statement.family.keyword] ∧
    closing.map (·.kind) = after.kinds ++ [.closeBrace]

theorem NeighborBody.Declares.insert {source : FamilySource}
    (h : NeighborBody.Declares c.blocks address (before ++ after) n)
    (hnone : .family ∉ NeighborBody.statements (before ++ after)) (hmeans : source.Means c.blocks f) :
    NeighborBody.Declares c.blocks address (before ++ .family source :: after) { n with families := f } := by
  obtain ⟨haddress, slots, hsets, hmake⟩ := h
  refine ⟨haddress, { slots with families := some f }, ⟨?_, ?_, ?_⟩, { hmake with families := rfl }⟩
  · have hdistinct := hsets.distinct
    rw [statements_append] at hnone hdistinct
    rw [statements_append]
    exact List.nodup_middle.mpr (List.nodup_cons.mpr ⟨hnone, hdistinct⟩)
  · intro s
    have hsame : value? (before ++ .family source :: after) s = value? (before ++ after) s := by
      rw [value?_append, value?_append]
      rfl
    have hvalue := hsets.values s
    rw [hsame]
    cases s <;> exact hvalue
  · have hbefore : before.source? = none := by
      rw [source?_eq_none_iff]
      exact fun hmem => hnone (statements_append before after ▸ List.mem_append_left _ hmem)
    rw [source?_of_append hbefore]
    exact .some hmeans

theorem read_to_reference (hneighbor : NeighborBody.Declares c.blocks address (before ++ after) n)
    {opening : List Token} (hopening : opening.map (·.kind) =
      [.word "neighbor", address.kind, .openBrace] ++ before.kinds ++ [.word Statement.family.keyword]) :
    ∃ d at', opening.foldlM State.step ⟨c, .top⟩ = .ok ⟨c, .familyReference d at'⟩ := by
  obtain ⟨haddress, slots, hsets, -⟩ := hneighbor
  obtain ⟨front, last, rfl, hfront, hlast⟩ := List.map_eq_append_iff.mp hopening
  obtain ⟨family, rfl, hfamily⟩ := List.map_eq_singleton_iff.mp hlast
  obtain ⟨first, statements, rfl, hfirst, hstatements⟩ := List.map_eq_append_iff.mp hfront
  obtain ⟨keyword, later, rfl, hkeyword, hlater⟩ := List.map_eq_cons_iff.mp hfirst
  obtain ⟨naming, later, rfl, hnaming, hlater⟩ := List.map_eq_cons_iff.mp hlater
  obtain ⟨brace, rfl, hbrace⟩ := List.map_eq_singleton_iff.mp hlater
  obtain ⟨d, hread, hd, -⟩ := read_opening (c := c) hkeyword hnaming hbrace haddress
  -- What the whole block sets, the statements before the reference may set.
  have hall : NeighborBody.Sets c.blocks ([] ++ before ++ after) slots := hsets
  obtain ⟨d', hread', -, -⟩ := read_statements_of_append hd.sets hall hstatements
  refine ⟨d', family.location, ?_⟩
  rw [List.append_assoc, read_append hread, read_append hread', read_cons (step_family hfamily)]
  rfl

/-- A block with a bare name can be referenced by its name, and a block with a quoted name cannot. -/
theorem referenced_unless_quoted {text added : String} {tokens : List Token} {reference : Token}
    (htext : tokenize text = .ok tokens) (hkinds : tokens.map (·.kind) = file.kinds) (hfile : file.Declares c)
    (hblock : .block name body ∈ file) (hadded : Refers added address before reference after)
    (hreference : reference.kind = name.kind)
    (hneighbor : NeighborBody.Declares c.blocks address (before ++ after) n)
    (hnone : .family ∉ NeighborBody.statements (before ++ after))
    (hfresh : ∀ earlier ∈ c.neighbors, earlier.peerAddress ≠ n.peerAddress) :
    ∃ families, c.block? name.text = some families ∧ body.Declares families ∧
      Configuration.parse (text ++ "\n" ++ added) =
        match name with
        | .bare _ => .ok { c with neighbors := c.neighbors ++ [{ n with families }] }
        | .quoted _ =>
          .error (.unexpectedToken name.kind.render .familyReference (reference.location.below text)) := by
  obtain ⟨families, hnamed, hdeclares⟩ := hfile.exists_block hblock
  obtain ⟨opening, closing, hmore, hopening, hclosing⟩ := hadded
  refine ⟨families, hnamed, hdeclares, ?_⟩
  have hsame : ∀ moving : List Token,
      (moving.map (Token.relocate (Location.below text))).map (·.kind) = moving.map (·.kind) := by
    intro moving
    rw [List.map_map]
    rfl
  rw [Configuration.parse, tokenize_added htext hmore]
  cases name with
  | bare word =>
    have hinserted : NeighborBody.Declares c.blocks address
        (before ++ .family (.reference word) :: after) { n with families } := hneighbor.insert hnone hnamed
    refine (hfile.neighbor _ c address _ _ hinserted hfresh).ofTokens ?_
    have hkind : reference.kind = .word word := hreference
    rw [List.map_append, hsame, hkinds, List.map_append, List.map_cons, hopening, hclosing, hkind,
      File.kinds_concat, Item.kinds, NeighborBody.kinds_append, NeighborBody.kinds_cons]
    simp [NeighborStatement.kinds, FamilySource.kinds]
  | quoted word =>
    obtain ⟨d, at', hread⟩ := read_to_reference hneighbor ((hsame opening).trans hopening)
    have hrefused : State.step ⟨c, .familyReference d at'⟩ (reference.relocate (Location.below text)) =
        .error (.unexpectedToken (Value.quoted word).kind.render .familyReference
          (reference.location.below text)) := by
      have hkind : reference.kind = .quoted word := hreference
      simp only [State.step, Token.relocate, hkind]
      rfl
    simp only [Configuration.ofTokens]
    rw [read_append (hfile.read hkinds), List.map_append, read_append hread, List.map_cons, List.foldlM_cons,
      hrefused]
    rfl

theorem keyword_name_referenced :
    let text := "family family \x7b all \x7d"
    let added := "neighbor 10.0.0.1 \x7blocal-as 1 family family peer-as 2\x7d"
    Configuration.parse (text ++ "\n" ++ added) = .ok
      { blocks := [("family", .ofList Family.implemented)]
        neighbors := [{ peerAddress := .v4 ⟨10, 0, 0, 1⟩, localAs := 1, peerAs := 2, holdTime := 180
                        families := .ofList Family.implemented }] } := by
  intro text added
  let name : Value := .bare "family"
  let c : Configuration := { blocks := [(name.text, .ofList Family.implemented)] }
  let n : Neighbor := { peerAddress := .v4 ⟨10, 0, 0, 1⟩, localAs := 1, peerAs := 2, holdTime := 180 }
  have htext : tokenize text = .ok [⟨.word "family", ⟨1, 1⟩⟩, ⟨.word "family", ⟨1, 8⟩⟩, ⟨.openBrace, ⟨1, 15⟩⟩,
      ⟨.word "all", ⟨1, 17⟩⟩, ⟨.closeBrace, ⟨1, 21⟩⟩] := by
    decide +kernel
  have hfile : File.Declares [.block name [.all]] c :=
    .block [] {} .nil name [.all] _ nofun ⟨by decide, by decide, rfl⟩
  have hadded : tokenize added = .ok ([⟨.word "neighbor", ⟨1, 1⟩⟩, ⟨.word "10.0.0.1", ⟨1, 10⟩⟩,
      ⟨.openBrace, ⟨1, 19⟩⟩, ⟨.word "local-as", ⟨1, 20⟩⟩, ⟨.word "1", ⟨1, 29⟩⟩, ⟨.word "family", ⟨1, 31⟩⟩] ++
      ⟨.word "family", ⟨1, 38⟩⟩ ::
      [⟨.word "peer-as", ⟨1, 45⟩⟩, ⟨.word "2", ⟨1, 53⟩⟩, ⟨.closeBrace, ⟨1, 54⟩⟩]) := by
    decide +kernel
  have hrefers : Refers added (.bare "10.0.0.1") [.setting .localAs nofun (.bare "1")] ⟨.word "family", ⟨1, 38⟩⟩
      [.setting .peerAs nofun (.bare "2")] := ⟨_, _, hadded, rfl, rfl⟩
  have hneighbor : NeighborBody.Declares c.blocks (.bare "10.0.0.1")
      ([.setting .localAs nofun (.bare "1")] ++ [.setting .peerAs nofun (.bare "2")]) n := by
    refine ⟨by decide +kernel, { localAs := some 1, peerAs := some 2 }, ⟨by decide, ?_, .none⟩,
      ⟨rfl, rfl, rfl, rfl, rfl, rfl, rfl⟩⟩
    intro s
    cases s with
    | localAs | peerAs => exact .some (by decide +kernel)
    | description => rfl
    | family => trivial
    | _ => exact .none
  obtain ⟨families, hnamed, -, hparse⟩ := referenced_unless_quoted htext rfl hfile List.mem_cons_self hrefers rfl
    hneighbor (by decide) nofun
  obtain rfl : Families.ofList Family.implemented = families := Option.some.inj hnamed
  exact hparse

theorem quoted_name_refused :
    let text := "family \"edge core\" \x7b all \x7d"
    let added := "neighbor 10.0.0.1 \x7b local-as 65000; peer-as 65001; family \"edge core\"; \x7d"
    Configuration.parse text = .ok { blocks := [("edge core", .ofList Family.implemented)] } ∧
      Configuration.parse (text ++ "\n" ++ added) =
        .error (.unexpectedToken "\"edge core\"" .familyReference ⟨2, 59⟩) := by
  decide +kernel

end Grammar

end RouteServer.Config
