import RouteServer.Proofs.Config.Scanning
import RouteServer.Proofs.Lists

/-! # The layout of lines

The scanner reads a text line by line. A line is made of tokens, of white space and of a comment at its end,
where words are as long as can be; or a quote opens a string in it that is not closed.
-/

namespace RouteServer.Config

variable {number : Nat} {front text rest cs : List Char} {tokens : List Token} {kind : TokenKind}

/-! ## Strings and comments of a line -/

/-- Behind the front of a line, neither a string nor a comment is open: the quotes make pairs, and each `#`
stands in a string, behind an odd number of them. -/
structure Outside (front : List Char) : Prop where
  paired : front.count '"' % 2 = 0
  inStrings : ∀ before after, front = before ++ '#' :: after → before.count '"' % 2 = 1

/-- In the column of a line, a quote opens a string that is not closed on the line. -/
def OpensUnclosed (line : List Char) (column : Nat) : Prop :=
  ∃ front rest, line = front ++ '"' :: rest ∧ column = front.length + 1 ∧ Outside front ∧ '"' ∉ rest

theorem Outside.append {a b : List Char} (ha : Outside a) (hb : Outside b) : Outside (a ++ b) := by
  obtain ⟨hpaired, hinside⟩ := ha
  constructor
  · rw [List.count_append, Nat.add_mod, hpaired, hb.paired]
  · intro before after heq
    rcases Lists.append_eq_append_cons heq with ⟨more, rfl, hafter⟩ | ⟨more, hfront, -⟩
    · rw [List.count_append, Nat.add_mod, hpaired, hb.inStrings more after hafter]
    · exact hinside before more hfront

theorem outside_of_free (hquote : '"' ∉ text) (hcomment : '#' ∉ text) : Outside text := by
  constructor
  · rw [List.count_eq_zero_of_not_mem hquote]
  · rintro before after rfl
    exact absurd (List.mem_append_right before List.mem_cons_self) hcomment

theorem outside_nil : Outside [] := outside_of_free List.not_mem_nil List.not_mem_nil

theorem outside_blank {c : Char} (hc : Text.isBlank c = true) : Outside [c] := by
  apply outside_of_free <;>
  · rw [List.mem_singleton]
    rintro rfl
    cases hc

theorem outside_string (h : Plain text) : Outside ('"' :: (text ++ ['"'])) := by
  have hnone : text.count '"' = 0 := List.count_eq_zero_of_not_mem fun hmem => (h _ hmem).1 rfl
  constructor
  · simp [hnone]
  · rintro (_ | ⟨c, before⟩) after heq
    · cases heq
    · obtain ⟨rfl, hsplit⟩ := List.cons.inj heq
      -- The comment sign stands in the text, which has no quotes.
      rcases Lists.append_eq_append_cons hsplit with ⟨more, -, hlast⟩ | ⟨more, rfl, -⟩
      · have hmem : '#' ∈ ['"'] := hlast ▸ List.mem_append_right more List.mem_cons_self
        exact absurd hmem (by decide)
      · have hbefore : before.count '"' = 0 := by
          rw [List.count_append] at hnone
          omega
        rw [List.count_cons_self, hbefore]

theorem TokenKind.IsLexeme.outside (h : kind.IsLexeme) : Outside kind.render.toList := by
  cases kind with
  | word text =>
    apply outside_of_free <;>
    · intro hmem
      cases h.unbroken _ hmem
  | quoted text =>
    have hrender : (quoted text).render.toList = '"' :: (text.toList ++ ['"']) := by simp [render]
    rw [hrender]
    exact outside_string h
  | _ => exact outside_of_free (by decide) (by decide)

theorem TokenKind.IsLexeme.length_pos (h : kind.IsLexeme) : 0 < kind.render.toList.length := by
  cases kind with
  | word text => exact List.length_pos_iff.mpr fun hnil => h.nonempty (String.toList_inj.mp hnil)
  | quoted text => simp [render]
  | _ => decide

/-! ## Layout -/

/-- The rest of a line behind its front is made of white space, of the tokens, and of a comment at its end. A
word is followed by what ends it. -/
inductive Laid (number : Nat) : List Char → List Token → List Char → Prop
  | nil (front : List Char) : Laid number front [] []
  | blank (front : List Char) (c : Char) (hc : Text.isBlank c = true) (tokens : List Token)
    (rest : List Char) (hrest : Laid number (front ++ [c]) tokens rest) : Laid number front tokens (c :: rest)
  | comment (front text : List Char) : Laid number front [] ('#' :: text)
  | token (front : List Char) (kind : TokenKind) (hkind : kind.IsLexeme) (tokens : List Token)
    (rest : List Char) (hrest : Laid number (front ++ kind.render.toList) tokens rest)
    (hends : ∀ word, kind = .word word → ∀ c ∈ rest.head?, ScanMode.endsWord c = true) :
    Laid number front (⟨kind, ⟨number, front.length + 1⟩⟩ :: tokens) (kind.render.toList ++ rest)

namespace ScanMode

theorem step_blank {c : Char} (hc : Text.isBlank c = true) (here : Location) :
    gap.step here c = .ok ([], gap) := by
  have hcomment : c ≠ '#' := by
    rintro rfl
    cases hc
  simp [step, begin, hcomment, hc]

theorem scan_comment (hcs : '\n' ∉ cs) (here : Location) : comment.scan here cs = .ok [] := by
  induction cs generalizing here with
  | nil => rfl
  | cons c rest ih =>
    rw [List.mem_cons, not_or] at hcs
    obtain ⟨hc, hrest⟩ := hcs
    have hstep : comment.step here c = .ok ([], comment) := by simp [step, Ne.symm hc]
    rw [scan_cons_eq hstep, map_nil_append, ih hrest]

theorem scan_unclosed (hcs : Plain cs) (start : Location) (chars : List Char) (here : Location) :
    (quoted start chars).scan here cs = .error ⟨start⟩ := by
  induction cs generalizing chars here with
  | nil => rfl
  | cons c rest ih =>
    obtain ⟨hquote, hfeed⟩ := hcs c List.mem_cons_self
    have hstep : (quoted start chars).step here c = .ok ([], quoted start (c :: chars)) := by
      simp [step, hquote, hfeed]
    rw [scan_cons_eq hstep, map_nil_append, ih fun d hd => hcs d (List.mem_cons_of_mem c hd)]

end ScanMode

theorem foldl_advance (hcs : '\n' ∉ cs) (number column : Nat) :
    cs.foldl Location.advance ⟨number, column⟩ = ⟨number, column + cs.length⟩ := by
  induction cs generalizing column with
  | nil => rfl
  | cons c rest ih =>
    rw [List.mem_cons, not_or] at hcs
    rw [List.foldl_cons, Location.advance, if_neg (Ne.symm hcs.1), ih hcs.2, List.length_cons,
      Nat.add_assoc, Nat.add_comm 1]

/-- What a line can go on with, between tokens. -/
inductive Beginning : List Char → Prop
  | nil : Beginning []
  | blank (c : Char) (hc : Text.isBlank c = true) (rest : List Char) : Beginning (c :: rest)
  | comment (text : List Char) : Beginning ('#' :: text)
  | unclosed (text : List Char) (htext : '"' ∉ text) : Beginning ('"' :: text)
  | token (kind : TokenKind) (hkind : kind.IsLexeme) (rest : List Char)
    (hends : ∀ word, kind = .word word → ∀ c ∈ rest.head?, ScanMode.endsWord c = true) :
    Beginning (kind.render.toList ++ rest)

theorem beginning_quote (htext : '\n' ∉ text) : Beginning ('"' :: text) := by
  by_cases hclosed : '"' ∈ text
  · obtain ⟨inside, rest, rfl, hinside⟩ := List.eq_append_cons_of_mem hclosed
    have hplain : Plain inside := by
      intro c hc
      refine ⟨?_, ?_⟩ <;> rintro rfl
      · exact hinside hc
      · exact htext (List.mem_append_left _ hc)
    have hkind : (TokenKind.quoted (.ofList inside)).IsLexeme := by
      rw [TokenKind.IsLexeme, String.toList_ofList]
      exact hplain
    have htoken := Beginning.token _ hkind rest nofun
    simpa [TokenKind.render] using htoken
  · exact .unclosed text hclosed

theorem beginning_word {c : Char} (hc : ScanMode.endsWord c = false) (rest : List Char) :
    Beginning (c :: rest) := by
  have hword : IsBare (.ofList ((c :: rest).takeWhile (!ScanMode.endsWord ·))) := by
    constructor
    · rw [List.takeWhile_cons_of_pos (by simpa using hc)]
      simp [String.ofList_eq_empty_iff]
    · rw [String.toList_ofList]
      intro d hd
      simpa using List.all_eq_true.mp List.all_takeWhile d hd
  have htoken := Beginning.token (.word _) hword ((c :: rest).dropWhile (!ScanMode.endsWord ·)) ?_
  · rw [TokenKind.render, String.toList_ofList, List.takeWhile_append_dropWhile] at htoken
    exact htoken
  · intro _ _ d hd
    have hhead := List.head?_dropWhile_not (!ScanMode.endsWord ·) (c :: rest)
    simp_all

theorem isLexeme_of_ofMark? {c : Char} (h : TokenKind.ofMark? c = some kind) :
    kind.IsLexeme ∧ ∀ word, kind ≠ .word word := by
  unfold TokenKind.ofMark? at h
  split at h
  case h_6 => cases h
  all_goals
    obtain rfl := Option.some.inj h
    exact ⟨trivial, nofun⟩

theorem beginning_mark {c : Char} (hc : TokenKind.ofMark? c = some kind) (rest : List Char) :
    Beginning (c :: rest) := by
  obtain ⟨hkind, hword⟩ := isLexeme_of_ofMark? hc
  have htoken := Beginning.token kind hkind rest fun word h => absurd h (hword word)
  rw [ScanMode.render_of_ofMark? hc] at htoken
  exact htoken

theorem beginning (hcs : '\n' ∉ cs) : Beginning cs := by
  cases cs with
  | nil => exact .nil
  | cons c rest =>
    rw [List.mem_cons, not_or] at hcs
    cases hc : ScanMode.endsWord c with
    | false => exact beginning_word hc rest
    | true =>
      simp only [ScanMode.endsWord, Bool.or_eq_true, beq_iff_eq, Option.isSome_iff_exists] at hc
      obtain ((hblank | rfl) | rfl) | ⟨mark, hmark⟩ := hc
      · exact .blank c hblank rest
      · exact .comment rest
      · exact beginning_quote hcs.2
      · exact beginning_mark hmark rest

/-- What the scanner makes of the rest of a line behind its front: it is laid out, or a string is not closed. -/
def ReadAs (number : Nat) (front rest : List Char) : Except UnterminatedString (List Token) → Prop
  | .ok tokens => Laid number front tokens rest
  | .error e => ∃ before after, rest = before ++ '"' :: after ∧ Outside before ∧ '"' ∉ after ∧
      e.location = ⟨number, (front ++ before).length + 1⟩

theorem ReadAs.token {outcome : Except UnterminatedString (List Token)} (hkind : kind.IsLexeme)
    (hends : ∀ word, kind = .word word → ∀ c ∈ rest.head?, ScanMode.endsWord c = true)
    (h : ReadAs number (front ++ kind.render.toList) rest outcome) :
    ReadAs number front (kind.render.toList ++ rest)
      (outcome.map (⟨kind, ⟨number, front.length + 1⟩⟩ :: ·)) := by
  cases outcome with
  | ok tokens => exact Laid.token front kind hkind tokens rest h hends
  | error e =>
    obtain ⟨before, after, rfl, hbefore, hafter, hlocation⟩ := h
    refine ⟨kind.render.toList ++ before, after, by simp, hkind.outside.append hbefore, hafter, ?_⟩
    rw [hlocation, List.append_assoc]

theorem ReadAs.blank {outcome : Except UnterminatedString (List Token)} {c : Char}
    (hc : Text.isBlank c = true) (h : ReadAs number (front ++ [c]) rest outcome) :
    ReadAs number front (c :: rest) outcome := by
  cases outcome with
  | ok tokens => exact Laid.blank front c hc tokens rest h
  | error e =>
    obtain ⟨before, after, rfl, hbefore, hafter, hlocation⟩ := h
    refine ⟨c :: before, after, rfl, (outside_blank hc).append hbefore, hafter, ?_⟩
    rw [hlocation, List.append_assoc, List.singleton_append]

theorem scan_line (hrest : '\n' ∉ rest) :
    ReadAs number front rest (ScanMode.gap.scan ⟨number, front.length + 1⟩ rest) := by
  -- A token takes several characters, so that the induction is on how many are left of the line.
  induction hlength : rest.length using Nat.strongRecOn generalizing front rest with
  | ind n ih =>
    subst hlength
    cases beginning hrest with
    | nil => exact .nil front
    | blank c hc later =>
      have hlater : '\n' ∉ later := fun hmem => hrest (List.mem_cons_of_mem c hmem)
      have hne : c ≠ '\n' := fun heq => hrest (heq ▸ List.mem_cons_self)
      rw [ScanMode.scan_cons_eq (ScanMode.step_blank hc _), ScanMode.map_nil_append, Location.advance, if_neg hne]
      have hread := @ih later.length (Nat.lt_succ_self _) (front ++ [c]) later hlater rfl
      rw [List.length_append] at hread
      exact hread.blank hc
    | comment text =>
      have hstep (here) : ScanMode.gap.step here '#' = .ok ([], .comment) := rfl
      have htext : '\n' ∉ text := fun hmem => hrest (List.mem_cons_of_mem _ hmem)
      rw [ScanMode.scan_cons_eq (hstep _), ScanMode.map_nil_append, ScanMode.scan_comment htext]
      exact .comment front text
    | unclosed text htext =>
      have hstep (here) : ScanMode.gap.step here '"' = .ok ([], .quoted here []) := rfl
      have hplain : Plain text := by
        intro c hc
        refine ⟨?_, ?_⟩ <;> rintro rfl
        · exact htext hc
        · exact hrest (List.mem_cons_of_mem _ hc)
      rw [ScanMode.scan_cons_eq (hstep _), ScanMode.map_nil_append, ScanMode.scan_unclosed hplain]
      exact ⟨[], text, rfl, outside_nil, htext, by simp⟩
    | token kind hkind later hends =>
      have hlater : '\n' ∉ later := fun hmem => hrest (List.mem_append_right _ hmem)
      have hrender : '\n' ∉ kind.render.toList := fun hmem => hrest (List.mem_append_left _ hmem)
      rw [ScanMode.scan_lexeme hkind hends, foldl_advance hrender]
      have hshorter : later.length < (kind.render.toList ++ later).length := by
        rw [List.length_append]
        exact Nat.lt_add_of_pos_left hkind.length_pos
      have hread := @ih later.length hshorter (front ++ kind.render.toList) later hlater rfl
      rw [List.length_append, Nat.add_right_comm] at hread
      exact hread.token hkind hends

/-! ## What is laid out -/

/-- The column behind a token. -/
def Token.ending (token : Token) : Nat := token.location.column + token.kind.render.toList.length

namespace Laid

theorem behind (h : Laid number front tokens rest) :
    ∀ token ∈ tokens, token.location.line = number ∧ front.length < token.location.column := by
  induction h with
  | nil front => exact List.forall_mem_nil _
  | blank front c hc tokens rest hrest ih =>
    intro token hmem
    obtain ⟨hline, hcolumn⟩ := ih token hmem
    rw [List.length_append] at hcolumn
    exact ⟨hline, by omega⟩
  | comment front text => exact List.forall_mem_nil _
  | token front kind hkind tokens rest hrest hends ih =>
    intro token hmem
    rcases List.mem_cons.mp hmem with rfl | hmem
    · exact ⟨rfl, Nat.lt_succ_self _⟩
    · obtain ⟨hline, hcolumn⟩ := ih token hmem
      rw [List.length_append] at hcolumn
      exact ⟨hline, by omega⟩

theorem apart (h : Laid number front tokens rest) :
    tokens.Pairwise fun a b => a.ending ≤ b.location.column := by
  induction h with
  | nil front => exact .nil
  | blank front c hc tokens rest hrest ih => exact ih
  | comment front text => exact .nil
  | token front kind hkind tokens rest hrest hends ih =>
    refine List.pairwise_cons.mpr ⟨fun later hlater => ?_, ih⟩
    have hcolumn := (hrest.behind later hlater).2
    rw [List.length_append] at hcolumn
    simp only [Token.ending]
    omega

theorem written (h : Laid number front tokens rest) : ∀ token ∈ tokens, token.kind.IsLexeme ∧
    ∃ before after, front ++ rest = before ++ token.kind.render.toList ++ after ∧
      token.location = ⟨number, before.length + 1⟩ ∧
      ∀ word, token.kind = .word word → ∀ c ∈ after.head?, ScanMode.endsWord c = true := by
  induction h with
  | nil front => exact List.forall_mem_nil _
  | blank front c hc tokens rest hrest ih => simpa using ih
  | comment front text => exact List.forall_mem_nil _
  | token front kind hkind tokens rest hrest hends ih =>
    intro token hmem
    rcases List.mem_cons.mp hmem with rfl | hmem
    · exact ⟨hkind, front, rest, by simp, rfl, hends⟩
    · simpa using ih token hmem

theorem covered (h : Laid number front tokens rest) (hfront : Outside front) {before after : List Char}
    {c : Char} (hsplit : rest = before ++ c :: after) :
    (∃ token ∈ tokens, token.location.column ≤ (front ++ before).length + 1 ∧
      (front ++ before).length + 1 < token.ending) ∨
    Text.isBlank c = true ∨
    ∃ start text, rest = start ++ '#' :: text ∧ start.length ≤ before.length ∧ Outside (front ++ start) ∧
      ∀ token ∈ tokens, token.ending ≤ (front ++ start).length + 1 := by
  induction h generalizing before with
  | nil front => simp at hsplit
  | blank front d hd tokens rest hrest ih =>
    cases before with
    | nil =>
      obtain ⟨rfl, -⟩ := List.cons.inj hsplit
      exact .inr (.inl hd)
    | cons d' before =>
      obtain ⟨rfl, hlater⟩ := List.cons.inj hsplit
      rcases ih (hfront.append (outside_blank hd)) hlater with
        htoken | hblank | ⟨start, text, rfl, hle, hstart⟩
      · exact .inl (by simpa using htoken)
      · exact .inr (.inl hblank)
      · exact .inr (.inr ⟨d :: start, text, rfl, Nat.succ_le_succ hle, by simpa using hstart⟩)
  | comment front text =>
    exact .inr (.inr ⟨[], text, rfl, Nat.zero_le _, by simpa using hfront, List.forall_mem_nil _⟩)
  | token front kind hkind tokens rest hrest hends ih =>
    rcases Lists.append_eq_append_cons hsplit with ⟨more, rfl, hlater⟩ | ⟨more, hrender, -⟩
    · rcases ih (hfront.append hkind.outside) hlater with
        ⟨token, hmem, htoken⟩ | hblank | ⟨start, text, rfl, hle, hstart, htokens⟩
      · exact .inl ⟨token, List.mem_cons_of_mem _ hmem, by simpa using htoken⟩
      · exact .inr (.inl hblank)
      · refine .inr (.inr ⟨kind.render.toList ++ start, text, by simp, by simpa using hle,
          by simpa using hstart, ?_⟩)
        intro token hmem
        rcases List.mem_cons.mp hmem with rfl | hmem
        · simp only [Token.ending, List.length_append]
          omega
        · simpa using htokens token hmem
    · refine .inl ⟨_, List.mem_cons_self, ?_⟩
      simp only [Token.ending, hrender, List.length_append, List.length_cons]
      omega

theorem closed (h : Laid number front tokens rest) (hfront : Outside front) {before after : List Char}
    (hsplit : rest = before ++ '"' :: after) (hafter : '"' ∉ after) : ¬ Outside (front ++ before) := by
  induction h generalizing before with
  | nil front => simp at hsplit
  | blank front d hd tokens rest hrest ih =>
    cases before with
    | nil =>
      obtain ⟨rfl, -⟩ := List.cons.inj hsplit
      cases hd
    | cons d' before =>
      obtain ⟨rfl, hlater⟩ := List.cons.inj hsplit
      simpa using ih (hfront.append (outside_blank hd)) hlater
  | comment front text =>
    cases before with
    | nil => cases hsplit
    | cons d before =>
      obtain ⟨rfl, -⟩ := List.cons.inj hsplit
      intro hopen
      have hodd := hopen.inStrings front before rfl
      rw [hfront.paired] at hodd
      cases hodd
  | token front kind hkind tokens rest hrest hends ih =>
    rcases Lists.append_eq_append_cons hsplit with ⟨more, rfl, hlater⟩ | ⟨more, hrender, rfl⟩
    · simpa using ih (hfront.append hkind.outside) hlater
    · -- The quote would be the last one of a token, which has an even number of them.
      intro hopen
      have hfirst := hfront.paired
      have hbefore := hopen.paired
      have hall := hkind.outside.paired
      have hmore : more.count '"' = 0 :=
        List.count_eq_zero_of_not_mem fun hmem => hafter (List.mem_append_left _ hmem)
      rw [hrender, List.count_append, List.count_cons_self, hmore] at hall
      rw [List.count_append] at hbefore
      omega

end Laid

end RouteServer.Config
