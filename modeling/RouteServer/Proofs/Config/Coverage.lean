import RouteServer.Proofs.Config.Layout

/-! # Tokens cover their text

A text is scanned if on each of its lines every string is closed; else the first string that is not closed is
reported. The tokens of a text stand in it one behind the other, and what they leave is white space and comments.
-/

namespace RouteServer.Config

variable {number : Nat} {line cs : List Char} {lines : List (List Char)} {tokens : List Token}

/-! ## Line by line -/

/-- The lines of a text, without the line feeds between them. -/
def linesOf (text : String) : List (List Char) := text.toList.splitOn '\n'

/-- Scans lines, of which the first one has the number. -/
def scanLines (number : Nat) : List (List Char) → Except UnterminatedString (List Token)
  | [] => .ok []
  | line :: rest => do
    let first ← ScanMode.gap.scan ⟨number, 1⟩ line
    let more ← scanLines (number + 1) rest
    return first ++ more

namespace ScanMode

theorem scan_feed (mode : ScanMode) (here : Location) (cs : List Char) :
    mode.scan here ('\n' :: cs) = do
      let first ← mode.finish
      let more ← gap.scan ⟨here.line + 1, 1⟩ cs
      return first ++ more := by
  cases mode <;> rfl

/-- A line feed keeps what is before it apart from what is behind it. -/
theorem scan_append_feed (before : List Char) (mode : ScanMode) (here : Location) (cs : List Char) :
    mode.scan here (before ++ '\n' :: cs) = do
      let first ← mode.scan here before
      let more ← gap.scan ⟨(before.foldl .advance here).line + 1, 1⟩ cs
      return first ++ more := by
  induction before generalizing mode here with
  | nil => exact scan_feed mode here cs
  | cons c before ih =>
    cases hstep : mode.step here c with
    | error e => simp [scan, hstep, bind, Except.bind]
    | ok result =>
      obtain ⟨first, next⟩ := result
      rw [List.cons_append, scan_cons_eq hstep, scan_cons_eq hstep, ih, List.foldl_cons]
      cases next.scan (here.advance c) before with
      | error e => rfl
      | ok tokens =>
        cases gap.scan ⟨(before.foldl .advance (here.advance c)).line + 1, 1⟩ cs <;>
          simp [bind, Except.bind, Except.map, pure, Except.pure]

theorem scan_intercalate (hlines : ∀ line ∈ lines, '\n' ∉ line) (hne : lines ≠ []) (number : Nat) :
    gap.scan ⟨number, 1⟩ (['\n'].intercalate lines) = scanLines number lines := by
  induction lines generalizing number with
  | nil => exact absurd rfl hne
  | cons line rest ih =>
    cases rest with
    | nil =>
      rw [List.intercalate_singleton, scanLines, scanLines]
      cases gap.scan ⟨number, 1⟩ line <;> simp [bind, Except.bind, pure, Except.pure]
    | cons next rest =>
      have hrest := ih (fun l hl => hlines l (List.mem_cons_of_mem line hl)) (List.cons_ne_nil _ _)
      rw [List.intercalate_cons_cons, List.append_assoc, List.singleton_append,
        scan_append_feed, foldl_advance (hlines line List.mem_cons_self), hrest]
      rfl

end ScanMode

theorem notMem_feed_of_mem_linesOf {text : String} (h : line ∈ linesOf text) : '\n' ∉ line :=
  Lists.notMem_of_mem_splitOn h

theorem tokenize_eq_scanLines (text : String) : tokenize text = scanLines 1 (linesOf text) := by
  rw [← ScanMode.scan_intercalate (fun _ => notMem_feed_of_mem_linesOf) (List.splitOn_ne_nil _ _),
    linesOf, List.intercalate_splitOn]
  rfl

/-! ## What covers a text -/

/-- One place comes before another one in a text. -/
def Location.Before (a b : Location) : Prop := a.line < b.line ∨ a.line = b.line ∧ a.column < b.column

/-- A character of a line, by its column, is one of a token. -/
def Token.Covers (token : Token) (here : Location) : Prop :=
  token.location.line = here.line ∧ token.location.column ≤ here.column ∧ here.column < token.ending

/-- A character of a line, by its column, stands in a comment. The comment runs to the end of the line, behind
all tokens of the line. -/
def InComment (tokens : List Token) (line : List Char) (here : Location) : Prop :=
  ∃ front text, line = front ++ '#' :: text ∧ front.length < here.column ∧ Outside front ∧
    ∀ token ∈ tokens, token.location.line = here.line → token.ending ≤ front.length + 1

/-- The tokens are what stands in the lines, of which the first one has the number, but for white space and
comments. -/
structure Cover (number : Nat) (lines : List (List Char)) (tokens : List Token) : Prop where
  increasing : tokens.Pairwise fun a b => a.location.Before b.location
  apart : tokens.Pairwise fun a b => a.location.line = b.location.line → a.ending ≤ b.location.column
  lexemes : ∀ token ∈ tokens, token.kind.IsLexeme
  written : ∀ token ∈ tokens, ∃ i before after, token.location = ⟨number + i, before.length + 1⟩ ∧
    lines[i]? = some (before ++ token.kind.render.toList ++ after) ∧
    ∀ word, token.kind = .word word → ∀ c ∈ after.head?, ScanMode.endsWord c = true
  covered : ∀ i before c after, lines[i]? = some (before ++ c :: after) →
    (∃ token ∈ tokens, token.Covers ⟨number + i, before.length + 1⟩) ∨ Text.isBlank c = true ∨
    InComment tokens (before ++ c :: after) ⟨number + i, before.length + 1⟩

/-- The first string of the lines that is not closed opens at the place. -/
def FirstUnclosed (number : Nat) (lines : List (List Char)) (here : Location) : Prop :=
  ∃ i line, lines[i]? = some line ∧ here.line = number + i ∧ OpensUnclosed line here.column ∧
    ∀ earlier ∈ lines.take i, ∀ column, ¬ OpensUnclosed earlier column

/-- What becomes of scanning lines. -/
def Scans (number : Nat) (lines : List (List Char)) : Except UnterminatedString (List Token) → Prop
  | .ok tokens => (∀ line ∈ lines, ∀ column, ¬ OpensUnclosed line column) ∧ Cover number lines tokens
  | .error e => FirstUnclosed number lines e.location

theorem Laid.not_opensUnclosed (h : Laid number [] tokens line) (column : Nat) :
    ¬ OpensUnclosed line column := by
  rintro ⟨front, rest, hline, -, hfront, hrest⟩
  exact h.closed outside_nil hline hrest hfront

theorem cover_nil (number : Nat) : Cover number [] [] where
  increasing := .nil
  apart := .nil
  lexemes := List.forall_mem_nil _
  written := List.forall_mem_nil _
  covered := nofun

theorem Cover.behind (h : Cover number lines tokens) :
    ∀ token ∈ tokens, number ≤ token.location.line := by
  intro token hmem
  obtain ⟨i, before, after, hlocation, -⟩ := h.written token hmem
  rw [hlocation]
  exact Nat.le_add_right number i

theorem Cover.cons {first more : List Token} (hfirst : Laid number [] first line)
    (hmore : Cover (number + 1) lines more) : Cover number (line :: lines) (first ++ more) := by
  have hearly : ∀ token ∈ first, token.location.line = number := fun token hmem => (hfirst.behind token hmem).1
  have hlate : ∀ token ∈ more, number < token.location.line := hmore.behind
  constructor
  case increasing =>
    refine List.pairwise_append.mpr ⟨?_, hmore.increasing, ?_⟩
    · refine hfirst.apart.imp_of_mem fun {a b} ha hb hle => .inr ⟨?_, ?_⟩
      · rw [hearly a ha, hearly b hb]
      · have hpos := (hfirst.written a ha).1.length_pos
        rw [Token.ending] at hle
        omega
    · intro a ha b hb
      exact .inl (hearly a ha ▸ hlate b hb)
  case apart =>
    refine List.pairwise_append.mpr ⟨?_, hmore.apart, ?_⟩
    · refine hfirst.apart.imp ?_
      intro a b hle _
      exact hle
    · intro a ha b hb hsame
      exact absurd (hearly a ha ▸ hsame) (Nat.ne_of_lt (hlate b hb))
  case lexemes =>
    intro token hmem
    rcases List.mem_append.mp hmem with hmem | hmem
    · exact (hfirst.written token hmem).1
    · exact hmore.lexemes token hmem
  case written =>
    intro token hmem
    rcases List.mem_append.mp hmem with hmem | hmem
    · obtain ⟨-, before, after, hline, hlocation, hends⟩ := hfirst.written token hmem
      exact ⟨0, before, after, hlocation, congrArg some hline, hends⟩
    · obtain ⟨i, before, after, hlocation, hline, hends⟩ := hmore.written token hmem
      refine ⟨i + 1, before, after, ?_, hline, hends⟩
      rw [hlocation, Nat.add_assoc, Nat.add_comm 1]
  case covered =>
    intro i before c after hline
    cases i with
    | zero =>
      obtain rfl := Option.some.inj hline
      rcases hfirst.covered outside_nil rfl with
        ⟨token, hmem, hcolumn, hending⟩ | hblank | ⟨start, text, hsplit, hle, hstart, htokens⟩
      · exact .inl ⟨token, List.mem_append_left _ hmem, hearly token hmem, hcolumn, hending⟩
      · exact .inr (.inl hblank)
      · refine .inr (.inr ⟨start, text, hsplit, Nat.lt_succ_of_le hle, hstart, fun token hmem hsame => ?_⟩)
        rcases List.mem_append.mp hmem with hmem | hmem
        · exact htokens token hmem
        · exact absurd hsame.symm (Nat.ne_of_lt (hlate token hmem))
    | succ i =>
      have hnumber : number + (i + 1) = number + 1 + i := by omega
      rw [hnumber]
      rcases hmore.covered i before c after hline with
        ⟨token, hmem, hcovers⟩ | hblank | ⟨start, text, hsplit, hlt, hstart, htokens⟩
      · exact .inl ⟨token, List.mem_append_right _ hmem, hcovers⟩
      · exact .inr (.inl hblank)
      · refine .inr (.inr ⟨start, text, hsplit, hlt, hstart, fun token hmem hsame => ?_⟩)
        rcases List.mem_append.mp hmem with hmem | hmem
        · have hline : number = number + 1 + i := (hearly token hmem).symm.trans hsame
          omega
        · exact htokens token hmem hsame

theorem scans_scanLines (hlines : ∀ line ∈ lines, '\n' ∉ line) (number : Nat) :
    Scans number lines (scanLines number lines) := by
  induction lines generalizing number with
  | nil => exact ⟨List.forall_mem_nil _, cover_nil number⟩
  | cons line rest ih =>
    have hread : ReadAs number [] line (ScanMode.gap.scan ⟨number, 1⟩ line) :=
      scan_line (hlines line List.mem_cons_self)
    rw [scanLines]
    cases hline : ScanMode.gap.scan ⟨number, 1⟩ line with
    | error e =>
      rw [hline] at hread
      obtain ⟨before, after, hsplit, hbefore, hafter, hlocation⟩ := hread
      refine ⟨0, line, rfl, ?_, ⟨before, after, hsplit, ?_, hbefore, hafter⟩, List.forall_mem_nil _⟩ <;>
        rw [hlocation] <;> rfl
    | ok first =>
      rw [hline] at hread
      have hrest := ih (fun l hl => hlines l (List.mem_cons_of_mem line hl)) (number + 1)
      cases hmore : scanLines (number + 1) rest with
      | error e =>
        rw [hmore] at hrest
        obtain ⟨i, later, hlater, hnumber, hopens, hearlier⟩ := hrest
        refine ⟨i + 1, later, hlater, ?_, hopens, ?_⟩
        · rw [hnumber]
          omega
        · rw [List.take_succ_cons]
          exact List.forall_mem_cons.mpr ⟨hread.not_opensUnclosed, hearlier⟩
      | ok more =>
        rw [hmore] at hrest
        exact ⟨List.forall_mem_cons.mpr ⟨hread.not_opensUnclosed, hrest.1⟩, hrest.2.cons hread⟩

theorem scans_tokenize (text : String) : Scans 1 (linesOf text) (tokenize text) := by
  rw [tokenize_eq_scanLines]
  exact scans_scanLines (fun _ => notMem_feed_of_mem_linesOf) 1

theorem tokens_cover_lines (text : String) :
    ((∃ e, tokenize text = .error e) ↔ ∃ line ∈ linesOf text, ∃ column, OpensUnclosed line column) ∧
    match tokenize text with
    | .error e => FirstUnclosed 1 (linesOf text) e.location
    | .ok tokens => Cover 1 (linesOf text) tokens := by
  have hscans := scans_tokenize text
  cases hscan : tokenize text with
  | error e =>
    rw [hscan] at hscans
    refine ⟨⟨fun _ => ?_, fun _ => ⟨e, rfl⟩⟩, hscans⟩
    obtain ⟨i, line, hline, -, hopens, -⟩ := hscans
    exact ⟨line, List.mem_of_getElem? hline, _, hopens⟩
  | ok tokens =>
    rw [hscan] at hscans
    refine ⟨⟨nofun, ?_⟩, hscans.2⟩
    rintro ⟨line, hline, column, hopens⟩
    exact absurd hopens (hscans.1 line hline column)

end RouteServer.Config
