import RouteServer.Proofs.Config.Coverage
import RouteServer.Proofs.Config.Relocated

/-! # Only the kinds matter

How the tokens of a text are kept apart and where they stand is of no account: with other gaps the text has the
same tokens, and two texts of the same tokens are the same configuration or are refused for the same reason.
-/

namespace RouteServer.Config

/-! ## Gaps -/

/-- One or more of white space, line feeds and comments, each comment with the line feed that ends it. -/
inductive Gap : List Char → Prop
  | blank (c : Char) (hc : Text.isBlank c = true) : Gap [c]
  | comment (text : List Char) (htext : '\n' ∉ text) : Gap ('#' :: (text ++ ['\n']))
  | append {a b : List Char} (ha : Gap a) (hb : Gap b) : Gap (a ++ b)

/-- Tokens as they are printed, with a gap between each two of them and maybe one at the end. -/
inductive Spaced : List TokenKind → List Char → Prop
  | nil : Spaced [] []
  | single (kind : TokenKind) : Spaced [kind] kind.render.toList
  | cons (kind : TokenKind) {gap cs : List Char} {kinds : List TokenKind} (hgap : Gap gap)
    (hrest : Spaced kinds cs) : Spaced (kind :: kinds) (kind.render.toList ++ gap ++ cs)

namespace Gap

variable {gap : List Char}

theorem head_endsWord (h : Gap gap) (rest : List Char) :
    ∀ c ∈ (gap ++ rest).head?, ScanMode.endsWord c = true := by
  induction h generalizing rest with
  | blank c hc =>
    rintro _ ⟨⟩
    simp [ScanMode.endsWord, hc]
  | comment text htext =>
    rintro _ ⟨⟩
    rfl
  | append _ _ iha _ =>
    rw [List.append_assoc]
    exact iha _

theorem writes (h : Gap gap) : Writes gap [] := by
  induction h with
  | blank c hc => exact .single fun here => ⟨[], Except.ok.inj (ScanMode.step_blank hc here), rfl⟩
  | comment text htext =>
    intro rest more hrest here
    have hbegin : ScanMode.gap.step here '#' = .ok ([], .comment) := rfl
    obtain ⟨tokens, hscan, hkinds⟩ := hrest ⟨(text.foldl .advance (here.advance '#')).line + 1, 1⟩
    refine ⟨tokens, ?_, hkinds⟩
    rw [List.cons_append, List.append_assoc, List.singleton_append, ScanMode.scan_cons_eq hbegin,
      ScanMode.map_nil_append, ScanMode.scan_append_feed, ScanMode.scan_comment htext, hscan]
    rfl
  | append _ _ iha ihb => exact iha.append ihb

end Gap

/-! ## Other gaps -/

theorem Spaced.spells {kinds : List TokenKind} {cs : List Char} (h : Spaced kinds cs)
    (hkinds : ∀ kind ∈ kinds, kind.IsLexeme) : Spells cs kinds := by
  induction h with
  | nil => exact spells_nil
  | single kind =>
    rw [← List.append_nil kind.render.toList]
    exact spells_nil.lexeme (hkinds kind List.mem_cons_self) nofun
  | cons kind hgap _ ih =>
    have hrest := hgap.writes _ _ (ih fun k hk => hkinds k (List.mem_cons_of_mem _ hk))
    rw [List.append_assoc]
    exact hrest.lexeme (hkinds kind List.mem_cons_self) fun _ _ => hgap.head_endsWord _

theorem tokenize_lexemes {text : String} {tokens : List Token} (h : tokenize text = .ok tokens) :
    ∀ kind ∈ tokens.map (·.kind), kind.IsLexeme := by
  have hscans := scans_tokenize text
  rw [h] at hscans
  exact List.forall_mem_map.mpr hscans.2.lexemes

theorem tokenize_spaced {text : String} {tokens : List Token} (h : tokenize text = .ok tokens) {cs : List Char}
    (hcs : Spaced (tokens.map (·.kind)) cs) :
    ∃ again, tokenize (.ofList cs) = .ok again ∧ again.map (·.kind) = tokens.map (·.kind) := by
  rw [tokenize, String.toList_ofList]
  exact hcs.spells (tokenize_lexemes h) .start

theorem only_kinds_matter {text : String} {tokens : List Token} (h : tokenize text = .ok tokens) :
    (∀ cs, Spaced (tokens.map (·.kind)) cs →
      ∃ again, tokenize (.ofList cs) = .ok again ∧ again.map (·.kind) = tokens.map (·.kind)) ∧
    ∀ other others, tokenize other = .ok others → others.map (·.kind) = tokens.map (·.kind) →
      (Configuration.parse other).mapError Error.unplaced =
        (Configuration.parse text).mapError Error.unplaced := by
  refine ⟨fun cs hcs => tokenize_spaced h hcs, fun other others hother hkinds => ?_⟩
  rw [Configuration.parse, Configuration.parse, h, hother]
  exact ofTokens_unplaced hkinds

theorem stray_word_refused_alike :
    tokenize "peer;" = .ok [⟨.word "peer", ⟨1, 1⟩⟩, ⟨.semicolon, ⟨1, 5⟩⟩] ∧
    (∀ cs, Spaced [.word "peer", .semicolon] cs →
      ∃ again, tokenize (.ofList cs) = .ok again ∧ again.map (·.kind) = [.word "peer", .semicolon]) ∧
    (Configuration.parse "# none\n peer ;").mapError Error.unplaced =
      (Configuration.parse "peer;").mapError Error.unplaced := by
  have hscan : tokenize "peer;" = .ok [⟨.word "peer", ⟨1, 1⟩⟩, ⟨.semicolon, ⟨1, 5⟩⟩] := rfl
  have hsame := only_kinds_matter hscan
  exact ⟨hscan, hsame.1, hsame.2 _ _ rfl rfl⟩

end RouteServer.Config
