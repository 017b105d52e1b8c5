import RouteServer.Config.Token
import RouteServer.Proofs.Except

/-! # Scanning text

The texts of tokens hold neither a quote nor a line feed. Words, quoted strings and marks are scanned one
after the other wherever they stand, as long as words are kept apart.
-/

namespace RouteServer.Config

/-! ## The texts of tokens -/

/-- A text that may stand between quotes. -/
def Plain (cs : List Char) : Prop := ∀ c ∈ cs, c ≠ '"' ∧ c ≠ '\n'

/-- A kind without a text, or with one that may stand between quotes. -/
def TokenKind.HasPlainText : TokenKind → Prop
  | word text => Plain text.toList
  | quoted text => Plain text.toList
  | _ => True

namespace Plain

theorem nil : Plain [] := by
  rintro c (_ | _)

theorem cons {c : Char} {cs : List Char} (hc : c ≠ '"' ∧ c ≠ '\n') (hcs : Plain cs) :
    Plain (c :: cs) := by
  rintro c' (_ | ⟨_, hmem⟩)
  · exact hc
  · exact hcs c' hmem

theorem ofList_reverse {cs : List Char} (h : Plain cs) : Plain (String.ofList cs.reverse).toList := by
  rw [String.toList_ofList]
  exact fun c hc => h c (List.mem_reverse.mp hc)

end Plain

namespace ScanMode

/-- What has been read of a word or a string may stand between quotes. -/
def HasPlainText : ScanMode → Prop
  | word _ chars => Plain chars
  | quoted _ chars => Plain chars
  | _ => True

theorem plain_of_not_endsWord {c : Char} (h : endsWord c = false) : c ≠ '"' ∧ c ≠ '\n' := by
  constructor <;> (rintro rfl; revert h; decide)

theorem hasPlainText_of_ofMark? {c : Char} {kind : TokenKind} (h : TokenKind.ofMark? c = some kind) :
    kind.HasPlainText := by
  unfold TokenKind.ofMark? at h
  split at h
  case h_6 => cases h
  all_goals
    obtain rfl := Option.some.inj h
    trivial

/-- Both the tokens that are complete and the mode behind them have plain texts. -/
def AllPlain (result : List Token × ScanMode) : Prop :=
  (∀ token ∈ result.1, token.kind.HasPlainText) ∧ result.2.HasPlainText

theorem begin_allPlain (here : Location) (c : Char) : AllPlain (begin here c) := by
  have hnone : ∀ token ∈ ([] : List Token), token.kind.HasPlainText := by
    rintro token (_ | _)
  unfold begin
  split
  · exact ⟨hnone, trivial⟩
  · rename_i hcomment
    split
    · exact ⟨hnone, trivial⟩
    · rename_i hblank
      split
      · exact ⟨hnone, .nil⟩
      · rename_i hquote
        split
        · rename_i mark hmark
          refine ⟨?_, trivial⟩
          rintro token (_ | ⟨_, _ | _⟩)
          exact hasPlainText_of_ofMark? hmark
        · have hfeed : c ≠ '\n' := by
            rintro rfl
            exact hblank rfl
          exact ⟨hnone, .cons ⟨hquote, hfeed⟩ .nil⟩

theorem step_allPlain {mode : ScanMode} (h : mode.HasPlainText) {here : Location} {c : Char}
    {result : List Token × ScanMode} (hstep : mode.step here c = .ok result) : AllPlain result := by
  have hnone : ∀ token ∈ ([] : List Token), token.kind.HasPlainText := by
    rintro token (_ | _)
  cases mode with
  | gap =>
    obtain rfl := Except.ok.inj hstep
    exact begin_allPlain here c
  | comment =>
    obtain rfl := Except.ok.inj hstep
    refine ⟨hnone, ?_⟩
    split <;> trivial
  | word start chars =>
    simp only [step] at hstep
    split at hstep
    · obtain rfl := Except.ok.inj hstep
      obtain ⟨hbegun, hnext⟩ := begin_allPlain here c
      refine ⟨?_, hnext⟩
      rintro token (_ | ⟨_, hmem⟩)
      · exact Plain.ofList_reverse h
      · exact hbegun token hmem
    · rename_i hends
      obtain rfl := Except.ok.inj hstep
      exact ⟨hnone, .cons (plain_of_not_endsWord (Bool.eq_false_iff.mpr hends)) h⟩
  | quoted start chars =>
    simp only [step] at hstep
    split at hstep
    · obtain rfl := Except.ok.inj hstep
      refine ⟨?_, trivial⟩
      rintro token (_ | ⟨_, _ | _⟩)
      exact Plain.ofList_reverse h
    · rename_i hquote
      split at hstep
      · cases hstep
      · rename_i hfeed
        obtain rfl := Except.ok.inj hstep
        exact ⟨hnone, .cons ⟨hquote, hfeed⟩ h⟩

theorem finish_plain {mode : ScanMode} (h : mode.HasPlainText) {tokens : List Token}
    (hfinish : mode.finish = .ok tokens) : ∀ token ∈ tokens, token.kind.HasPlainText := by
  cases mode with
  | word start chars =>
    obtain rfl := Except.ok.inj hfinish
    rintro token (_ | ⟨_, _ | _⟩)
    exact Plain.ofList_reverse h
  | quoted start chars => cases hfinish
  | _ =>
    obtain rfl := Except.ok.inj hfinish
    rintro token (_ | _)

theorem scan_plain {mode : ScanMode} (h : mode.HasPlainText) {here : Location} {cs : List Char}
    {tokens : List Token} (hscan : mode.scan here cs = .ok tokens) :
    ∀ token ∈ tokens, token.kind.HasPlainText := by
  induction cs generalizing mode here tokens with
  | nil => exact finish_plain h hscan
  | cons c rest ih =>
    obtain ⟨⟨first, next⟩, hstep, hrest⟩ := bind_eq_ok_iff.mp hscan
    obtain ⟨more, hmore, hreturn⟩ := bind_eq_ok_iff.mp hrest
    obtain rfl := Except.ok.inj hreturn
    obtain ⟨hfirst, hnext⟩ := step_allPlain h hstep
    intro token hmem
    rcases List.mem_append.mp hmem with hmem | hmem
    · exact hfirst token hmem
    · exact ih hnext hmore token hmem

theorem gap_hasPlainText : gap.HasPlainText := trivial

end ScanMode

theorem tokenize_plain {text : String} {tokens : List Token} (h : tokenize text = .ok tokens) :
    ∀ token ∈ tokens, token.kind.HasPlainText :=
  ScanMode.scan_plain ScanMode.gap_hasPlainText h

/-! ## Writing tokens -/

/-- Scanned between tokens, from wherever, the text gives tokens of the kinds. -/
def Spells (cs : List Char) (kinds : List TokenKind) : Prop :=
  ∀ here, ∃ tokens, ScanMode.gap.scan here cs = .ok tokens ∧ tokens.map (·.kind) = kinds

/-- A piece of text that gives tokens of the kinds before every other text. -/
def Writes (cs : List Char) (kinds : List TokenKind) : Prop :=
  ∀ rest more, Spells rest more → Spells (cs ++ rest) (kinds ++ more)

/-- A word that stands bare in a text. -/
structure IsBare (word : String) : Prop where
  nonempty : word ≠ ""
  unbroken : ∀ c ∈ word.toList, ScanMode.endsWord c = false

theorem isBare_iff {word : String} :
    IsBare word ↔ word ≠ "" ∧ word.toList.any ScanMode.endsWord = false := by
  simp only [List.any_eq_false, Bool.not_eq_true]
  exact ⟨fun h => ⟨h.nonempty, h.unbroken⟩, fun h => ⟨h.1, h.2⟩⟩

instance (word : String) : Decidable (IsBare word) := decidable_of_iff _ isBare_iff.symm

theorem IsBare.notMem_feed {word : String} (h : IsBare word) : '\n' ∉ word.toList := by
  intro hmem
  cases h.unbroken _ hmem

/-- A kind with a text that the scanner can give it. -/
def TokenKind.IsLexeme : TokenKind → Prop
  | word text => IsBare text
  | quoted text => Plain text.toList
  | _ => True

namespace ScanMode

theorem scan_cons {mode next : ScanMode} {here : Location} {c : Char} {rest : List Char}
    {tokens more : List Token} (hstep : mode.step here c = .ok (tokens, next))
    (hrest : next.scan (here.advance c) rest = .ok more) :
    mode.scan here (c :: rest) = .ok (tokens ++ more) :=
  bind_eq_ok_iff.mpr ⟨_, hstep, bind_eq_ok_iff.mpr ⟨_, hrest, rfl⟩⟩

theorem scan_cons_eq {mode next : ScanMode} {here : Location} {c : Char} {first : List Token}
    (hstep : mode.step here c = .ok (first, next)) (rest : List Char) :
    mode.scan here (c :: rest) = (next.scan (here.advance c) rest).map (first ++ ·) := by
  rw [scan, hstep]
  rfl

theorem map_nil_append {x : Except UnterminatedString (List Token)} : x.map ([] ++ ·) = x := by
  cases x <;> rfl

theorem begin_of_not_endsWord {c : Char} (h : endsWord c = false) (here : Location) :
    begin here c = ([], word here [c]) := by
  simp only [endsWord, Bool.or_eq_false_iff, beq_eq_false_iff_ne, ne_eq, Option.isSome_eq_false_iff,
    Option.isNone_iff_eq_none] at h
  obtain ⟨⟨⟨hblank, hcomment⟩, hquote⟩, hmark⟩ := h
  simp [begin, hcomment, hblank, hquote, hmark]

theorem render_of_ofMark? {c : Char} {kind : TokenKind} (h : TokenKind.ofMark? c = some kind) :
    kind.render.toList = [c] := by
  unfold TokenKind.ofMark? at h
  split at h
  case h_6 => cases h
  all_goals
    obtain rfl := Option.some.inj h
    rfl

theorem begin_of_ofMark? {c : Char} {mark : TokenKind} (h : TokenKind.ofMark? c = some mark)
    (here : Location) : begin here c = ([⟨mark, here⟩], gap) := by
  unfold TokenKind.ofMark? at h
  split at h
  case h_6 => cases h
  all_goals
    obtain rfl := Option.some.inj h
    rfl

variable {rest : List Char}

theorem scan_word {w : List Char} (hw : ∀ c ∈ w, endsWord c = false)
    (hrest : ∀ c ∈ rest.head?, endsWord c = true) (start : Location) (chars : List Char) (here : Location) :
    (word start chars).scan here (w ++ rest) = (gap.scan (w.foldl .advance here) rest).map
      (⟨.word (.ofList (chars.reverse ++ w)), start⟩ :: ·) := by
  induction w generalizing chars here with
  | nil =>
    cases rest with
    | nil => simp [scan, finish, Except.map]
    | cons c rest =>
      have hc : endsWord c = true := hrest c rfl
      have hend : (word start chars).step here c =
          .ok (⟨.word (.ofList chars.reverse), start⟩ :: (begin here c).1, (begin here c).2) := by
        simp [step, hc]
      have hgap : gap.step here c = .ok ((begin here c).1, (begin here c).2) := rfl
      rw [List.nil_append, List.foldl_nil, scan_cons_eq hend, scan_cons_eq hgap]
      cases (begin here c).2.scan (here.advance c) rest <;> simp [Except.map]
  | cons d w ih =>
    have hstep : (word start chars).step here d = .ok ([], word start (d :: chars)) := by
      simp [step, hw d List.mem_cons_self]
    rw [List.cons_append, scan_cons_eq hstep, map_nil_append,
      ih (fun c hc => hw c (List.mem_cons_of_mem d hc))]
    simp

theorem scan_quoted {text : List Char} (htext : Plain text) (start : Location) (chars : List Char)
    (here : Location) : (quoted start chars).scan here (text ++ '"' :: rest) =
      (gap.scan ((text ++ ['"']).foldl .advance here) rest).map
        (⟨.quoted (.ofList (chars.reverse ++ text)), start⟩ :: ·) := by
  induction text generalizing chars here with
  | nil =>
    have hend : (quoted start chars).step here '"' =
        .ok ([⟨.quoted (.ofList chars.reverse), start⟩], gap) := rfl
    rw [List.nil_append, scan_cons_eq hend]
    simp
  | cons d text ih =>
    obtain ⟨hquote, hfeed⟩ := htext d List.mem_cons_self
    have hstep : (quoted start chars).step here d = .ok ([], quoted start (d :: chars)) := by
      simp [step, hquote, hfeed]
    rw [List.cons_append, scan_cons_eq hstep, map_nil_append,
      ih (fun c hc => htext c (List.mem_cons_of_mem d hc))]
    simp

theorem scan_mark {c : Char} {mark : TokenKind} (h : TokenKind.ofMark? c = some mark) (here : Location) :
    gap.scan here (mark.render.toList ++ rest) =
      (gap.scan (mark.render.toList.foldl .advance here) rest).map (⟨mark, here⟩ :: ·) := by
  have hbegin : gap.step here c = .ok ([⟨mark, here⟩], gap) :=
    congrArg Except.ok (begin_of_ofMark? h here)
  rw [render_of_ofMark? h]
  exact scan_cons_eq hbegin rest

/-- A token is read where it stands, and the rest behind it. -/
theorem scan_lexeme {kind : TokenKind} (hkind : kind.IsLexeme)
    (hrest : ∀ word, kind = .word word → ∀ c ∈ rest.head?, endsWord c = true) (here : Location) :
    gap.scan here (kind.render.toList ++ rest) =
      (gap.scan (kind.render.toList.foldl .advance here) rest).map (⟨kind, here⟩ :: ·) := by
  cases kind with
  | word text =>
    obtain ⟨hne, hunbroken⟩ := hkind
    obtain ⟨d, chars, hcons⟩ := List.exists_cons_of_ne_nil fun hnil => hne (String.toList_inj.mp hnil)
    rw [hcons] at hunbroken
    have hbegin : gap.step here d = .ok ([], word here [d]) :=
      congrArg Except.ok (begin_of_not_endsWord (hunbroken d List.mem_cons_self) here)
    have htext : String.ofList ([d].reverse ++ chars) = text := by
      rw [List.reverse_singleton, List.singleton_append, ← hcons, String.ofList_toList]
    rw [TokenKind.render, hcons, List.cons_append, scan_cons_eq hbegin, map_nil_append,
      scan_word (fun c hc => hunbroken c (List.mem_cons_of_mem d hc)) (hrest text rfl), htext]
    rfl
  | quoted text =>
    have hopen : gap.step here '"' = .ok ([], quoted here []) := rfl
    have hrender : (TokenKind.quoted text).render.toList = '"' :: (text.toList ++ ['"']) := by
      simp [TokenKind.render]
    rw [hrender, List.cons_append, List.append_assoc, List.singleton_append, scan_cons_eq hopen,
      map_nil_append, scan_quoted hkind]
    simp
  | openBrace => exact scan_mark (c := '\x7b') rfl here
  | closeBrace => exact scan_mark (c := '\x7d') rfl here
  | openBracket => exact scan_mark (c := '[') rfl here
  | closeBracket => exact scan_mark (c := ']') rfl here
  | semicolon => exact scan_mark (c := ';') rfl here

end ScanMode

theorem spells_nil : Spells [] [] := fun _ => ⟨[], rfl, rfl⟩

theorem Spells.lexeme {kind : TokenKind} {rest : List Char} {kinds : List TokenKind} (hkind : kind.IsLexeme)
    (hends : ∀ word, kind = .word word → ∀ c ∈ rest.head?, ScanMode.endsWord c = true)
    (hrest : Spells rest kinds) : Spells (kind.render.toList ++ rest) (kind :: kinds) := by
  intro here
  obtain ⟨tokens, hscan, rfl⟩ := hrest (kind.render.toList.foldl .advance here)
  rw [ScanMode.scan_lexeme hkind hends, hscan]
  exact ⟨_, rfl, rfl⟩

namespace Writes

variable {a b : List Char} {ka kb kinds : List TokenKind} {c : Char} {cs : List Char}

theorem nil : Writes [] [] := fun _ _ h => h

theorem append (ha : Writes a ka) (hb : Writes b kb) : Writes (a ++ b) (ka ++ kb) := by
  intro rest more hrest
  rw [List.append_assoc, List.append_assoc]
  exact ha _ _ (hb _ _ hrest)

theorem spells (h : Writes cs kinds) : Spells cs kinds := by
  simpa using h [] [] spells_nil

theorem single (h : ∀ here, ∃ tokens, ScanMode.begin here c = (tokens, .gap) ∧
    tokens.map (·.kind) = kinds) : Writes [c] kinds := by
  intro rest more hrest here
  obtain ⟨first, hbegin, rfl⟩ := h here
  obtain ⟨tokens, hscan, rfl⟩ := hrest (here.advance c)
  exact ⟨_, ScanMode.scan_cons (congrArg Except.ok hbegin) hscan, List.map_append⟩

theorem blank : Writes [' '] [] := single fun _ => ⟨_, rfl, rfl⟩

theorem feed : Writes ['\n'] [] := single fun _ => ⟨_, rfl, rfl⟩

theorem semicolon : Writes [';'] [.semicolon] := single fun _ => ⟨_, rfl, rfl⟩

theorem openBrace : Writes ['\x7b'] [.openBrace] := single fun _ => ⟨_, rfl, rfl⟩

theorem closeBrace : Writes ['\x7d'] [.closeBrace] := single fun _ => ⟨_, rfl, rfl⟩

theorem openBracket : Writes ['['] [.openBracket] := single fun _ => ⟨_, rfl, rfl⟩

theorem closeBracket : Writes [']'] [.closeBracket] := single fun _ => ⟨_, rfl, rfl⟩

theorem word {w : String} (hw : IsBare w) (hc : ScanMode.endsWord c = true)
    (h : Writes (c :: cs) kinds) : Writes (w.toList ++ c :: cs) (.word w :: kinds) := by
  intro rest more hrest
  have hlexeme : (TokenKind.word w).IsLexeme := hw
  rw [List.append_assoc]
  refine Spells.lexeme hlexeme (fun _ _ d hd => ?_) (h rest more hrest)
  obtain rfl := Option.some.inj hd
  exact hc

theorem quoted {text : String} (htext : Plain text.toList) :
    Writes ('"' :: text.toList ++ ['"']) [.quoted text] := by
  intro rest more hrest
  have hrender : (TokenKind.quoted text).render.toList = '"' :: text.toList ++ ['"'] := by
    simp [TokenKind.render]
  rw [← hrender]
  exact Spells.lexeme htext (fun _ h => nomatch h) hrest

theorem words {ws : List String} (h : ∀ w ∈ ws, IsBare w) :
    Writes ((Text.unwords ws).toList ++ [' ']) (ws.map .word) := by
  rw [Text.unwords, String.toList_intercalate]
  induction ws with
  | nil => exact blank
  | cons w rest ih =>
    have hrest := ih fun w hw => h w (List.mem_cons_of_mem _ hw)
    have hw := h w List.mem_cons_self
    cases rest with
    | nil =>
      rw [List.map_singleton, List.map_singleton, List.intercalate_singleton]
      exact word hw rfl blank
    | cons next rest =>
      rw [List.map_cons, List.map_cons, List.intercalate_cons_cons, List.append_assoc, List.append_assoc,
        List.map_cons]
      exact word hw rfl (blank.append hrest)

end Writes

end RouteServer.Config
