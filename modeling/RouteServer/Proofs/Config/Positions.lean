import RouteServer.Proofs.Config.Scanning

/-! # Where tokens stand

The scanner counts lines and columns as it reads. Each of its tokens is written in the text at the place that
the token has, and a string that it cannot complete opens at the place that it reports.
-/

namespace RouteServer.Config

/-! ## Places -/

/-- The place behind the first characters of a text: a line for each line feed among them, and a column for
each character since the last line feed. -/
def Location.behind (front : List Char) : Location :=
  ⟨front.count '\n' + 1, (front.reverse.takeWhile (· ≠ '\n')).length + 1⟩

theorem Location.behind_concat (front : List Char) (c : Char) :
    behind (front ++ [c]) = (behind front).advance c := by
  unfold advance
  split
  · rename_i hc
    simp [behind, hc]
  · rename_i hc
    simp [behind, hc]

/-- A token is written in a text, at its place. -/
def Token.StandsIn (token : Token) (cs : List Char) : Prop :=
  ∃ front rest, cs = front ++ token.kind.render.toList ++ rest ∧ token.location = .behind front

theorem Token.StandsIn.append {token : Token} {cs : List Char} (h : token.StandsIn cs) (more : List Char) :
    token.StandsIn (cs ++ more) := by
  obtain ⟨front, rest, rfl, hlocation⟩ := h
  exact ⟨front, rest ++ more, by simp, hlocation⟩

/-! ## Reading from the start of a text -/

/-- What the scanner makes of the first characters of a text: the tokens that are complete, and the mode that
it is in behind them. -/
inductive Scanned : List Char → List Token → ScanMode → Prop
  | start : Scanned [] [] .gap
  | step (read : List Char) (tokens : List Token) (mode : ScanMode) (hread : Scanned read tokens mode)
    (c : Char) (more : List Token) (next : ScanMode)
    (hstep : mode.step (.behind read) c = .ok (more, next)) :
    Scanned (read ++ [c]) (tokens ++ more) next

namespace ScanMode

/-- The word or the string that is not complete yet is the end of what has been read. -/
def BeganIn (read : List Char) : ScanMode → Prop
  | word start chars => ∃ front, read = front ++ chars.reverse ∧ start = .behind front
  | quoted start chars => ∃ front, read = front ++ '"' :: chars.reverse ∧ start = .behind front
  | _ => True

variable {read : List Char} {c : Char}

/-- Both the tokens that are complete and the mode behind them are those of what has been read. -/
def AllStandIn (read : List Char) (result : List Token × ScanMode) : Prop :=
  (∀ token ∈ result.1, token.StandsIn read) ∧ result.2.BeganIn read

theorem begin_allStandIn (read : List Char) (c : Char) :
    AllStandIn (read ++ [c]) (begin (.behind read) c) := by
  have hnone : ∀ token ∈ ([] : List Token), token.StandsIn (read ++ [c]) := List.forall_mem_nil _
  unfold begin
  split
  · exact ⟨hnone, trivial⟩
  · split
    · exact ⟨hnone, trivial⟩
    · split
      · rename_i hquote
        subst hquote
        exact ⟨hnone, read, rfl, rfl⟩
      · split
        · rename_i mark hmark
          refine ⟨?_, trivial⟩
          rintro token (_ | ⟨_, _ | _⟩)
          exact ⟨read, [], by rw [render_of_ofMark? hmark, List.append_nil], rfl⟩
        · exact ⟨hnone, read, rfl, rfl⟩

theorem word_standsIn {start : Location} {chars : List Char} (h : (word start chars).BeganIn read) :
    Token.StandsIn ⟨.word (.ofList chars.reverse), start⟩ read := by
  obtain ⟨front, rfl, rfl⟩ := h
  exact ⟨front, [], by simp [TokenKind.render], rfl⟩

theorem quoted_standsIn {start : Location} {chars : List Char} (h : (quoted start chars).BeganIn read) :
    Token.StandsIn ⟨.quoted (.ofList chars.reverse), start⟩ (read ++ ['"']) := by
  obtain ⟨front, rfl, rfl⟩ := h
  exact ⟨front, [], by simp [TokenKind.render], rfl⟩

theorem step_allStandIn {mode : ScanMode} (h : mode.BeganIn read) {result : List Token × ScanMode}
    (hstep : mode.step (.behind read) c = .ok result) : AllStandIn (read ++ [c]) result := by
  have hnone : ∀ token ∈ ([] : List Token), token.StandsIn (read ++ [c]) := List.forall_mem_nil _
  cases mode with
  | gap =>
    obtain rfl := Except.ok.inj hstep
    exact begin_allStandIn read c
  | comment =>
    obtain rfl := Except.ok.inj hstep
    refine ⟨hnone, ?_⟩
    split <;> trivial
  | word start chars =>
    simp only [step] at hstep
    split at hstep
    · obtain rfl := Except.ok.inj hstep
      obtain ⟨hbegun, hnext⟩ := begin_allStandIn read c
      refine ⟨?_, hnext⟩
      rintro token (_ | ⟨_, hmem⟩)
      · exact (word_standsIn h).append [c]
      · exact hbegun token hmem
    · obtain rfl := Except.ok.inj hstep
      obtain ⟨front, rfl, rfl⟩ := h
      exact ⟨hnone, front, by simp, rfl⟩
  | quoted start chars =>
    simp only [step] at hstep
    split at hstep
    · rename_i hquote
      subst hquote
      obtain rfl := Except.ok.inj hstep
      refine ⟨?_, trivial⟩
      rintro token (_ | ⟨_, _ | _⟩)
      exact quoted_standsIn h
    · split at hstep
      · cases hstep
      · obtain rfl := Except.ok.inj hstep
        obtain ⟨front, rfl, rfl⟩ := h
        exact ⟨hnone, front, by simp, rfl⟩

theorem finish_standsIn {mode : ScanMode} (h : mode.BeganIn read) {tokens : List Token}
    (hfinish : mode.finish = .ok tokens) : ∀ token ∈ tokens, token.StandsIn read := by
  cases mode with
  | word start chars =>
    obtain rfl := Except.ok.inj hfinish
    rintro token (_ | ⟨_, _ | _⟩)
    exact word_standsIn h
  | quoted start chars => cases hfinish
  | _ =>
    obtain rfl := Except.ok.inj hfinish
    rintro token (_ | _)

end ScanMode

namespace Scanned

variable {read rest : List Char} {tokens : List Token} {mode : ScanMode}

theorem allStandIn (h : Scanned read tokens mode) : ScanMode.AllStandIn read (tokens, mode) := by
  induction h with
  | start => exact ⟨by rintro token (_ | _), trivial⟩
  | step read tokens mode hread c more next hstep ih =>
    obtain ⟨htokens, hmode⟩ := ih
    obtain ⟨hmore, hnext⟩ := ScanMode.step_allStandIn hmode hstep
    refine ⟨fun token hmem => ?_, hnext⟩
    rcases List.mem_append.mp hmem with hmem | hmem
    · exact (htokens token hmem).append [c]
    · exact hmore token hmem

theorem hasPlainText (h : Scanned read tokens mode) : mode.HasPlainText := by
  induction h with
  | start => trivial
  | step read tokens mode hread c more next hstep ih => exact (ScanMode.step_allPlain ih hstep).2

theorem scan_append (h : Scanned read tokens mode) {more : List Token}
    (hrest : mode.scan (.behind read) rest = .ok more) :
    ScanMode.gap.scan .start (read ++ rest) = .ok (tokens ++ more) := by
  induction h generalizing rest more with
  | start => exact hrest
  | step read tokens mode hread c first next hstep ih =>
    rw [Location.behind_concat] at hrest
    rw [← List.append_cons, List.append_assoc]
    exact ih (ScanMode.scan_cons hstep hrest)

theorem exists_of_scan_eq_ok (h : Scanned read tokens mode) {all : List Token}
    (hscan : mode.scan (.behind read) rest = .ok all) :
    ∃ more mode' last, Scanned (read ++ rest) (tokens ++ more) mode' ∧ mode'.finish = .ok last ∧
      all = more ++ last := by
  induction rest generalizing read tokens mode all with
  | nil => exact ⟨[], mode, all, by simpa using h, hscan, rfl⟩
  | cons c rest ih =>
    obtain ⟨⟨first, next⟩, hstep, hnext⟩ := bind_eq_ok_iff.mp hscan
    obtain ⟨later, hlater, hreturn⟩ := bind_eq_ok_iff.mp hnext
    obtain rfl := Except.ok.inj hreturn
    rw [← Location.behind_concat] at hlater
    obtain ⟨more, mode', last, hread, hfinish, rfl⟩ := ih (.step _ _ _ h _ _ _ hstep) hlater
    exact ⟨first ++ more, mode', last, by simpa using hread, hfinish, by simp⟩

theorem exists_of_scan_eq_error (h : Scanned read tokens mode) {e : UnterminatedString}
    (hscan : mode.scan (.behind read) rest = .error e) :
    ∃ line rest' more chars, rest = line ++ rest' ∧ (∀ c ∈ rest'.head?, c = '\n') ∧
      Scanned (read ++ line) (tokens ++ more) (.quoted e.location chars) := by
  induction rest generalizing read tokens mode with
  | nil =>
    cases mode with
    | quoted start chars =>
      obtain rfl := Except.error.inj hscan
      exact ⟨[], [], [], chars, rfl, by simp, by simpa using h⟩
    | _ => cases hscan
  | cons c rest ih =>
    rcases bind_eq_error_iff.mp hscan with hstep | ⟨⟨first, next⟩, hstep, hnext⟩
    · cases mode with
      | quoted start chars =>
        simp only [ScanMode.step] at hstep
        split at hstep
        · cases hstep
        · split at hstep
          · rename_i hfeed
            obtain rfl := Except.error.inj hstep
            exact ⟨[], c :: rest, [], chars, rfl, by simp [hfeed], by simpa using h⟩
          · cases hstep
      | word start chars =>
        simp only [ScanMode.step] at hstep
        split at hstep <;> cases hstep
      | _ => cases hstep
    · rcases bind_eq_error_iff.mp hnext with hlater | ⟨later, -, hreturn⟩
      · rw [← Location.behind_concat] at hlater
        obtain ⟨line, rest', more, chars, rfl, hend, hread⟩ := ih (.step _ _ _ h _ _ _ hstep) hlater
        exact ⟨c :: line, rest', first ++ more, chars, rfl, hend, by simpa using hread⟩
      · cases hreturn

end Scanned

/-! ## Whole texts -/

theorem tokenize_standsIn {text : String} {tokens : List Token} (h : tokenize text = .ok tokens) :
    ∀ token ∈ tokens, token.StandsIn text.toList := by
  obtain ⟨more, mode, last, hread, hfinish, rfl⟩ := Scanned.start.exists_of_scan_eq_ok h
  obtain ⟨hmore, hmode⟩ := hread.allStandIn
  intro token hmem
  rcases List.mem_append.mp hmem with hmem | hmem
  · exact hmore token hmem
  · exact ScanMode.finish_standsIn hmode hfinish token hmem

/-- A string opens at a place of a text and is not closed on its line. At the end of the line, a quote would
close it. -/
def UnclosedAt (text : String) (location : Location) : Prop :=
  ∃ front line rest, text.toList = front ++ '"' :: line ++ rest ∧ location = .behind front ∧
    (∀ c ∈ line, c ≠ '"' ∧ c ≠ '\n') ∧ (∀ c ∈ rest.head?, c = '\n') ∧
    ∃ tokens, tokenize (.ofList (front ++ '"' :: line ++ ['"'])) =
      .ok (tokens ++ [⟨.quoted (.ofList line), location⟩])

theorem unclosedAt_of_tokenize {text : String} {e : UnterminatedString} (h : tokenize text = .error e) :
    UnclosedAt text e.location := by
  obtain ⟨line, rest, tokens, chars, htext, hend, hread⟩ := Scanned.start.exists_of_scan_eq_error h
  obtain ⟨front, hline, hlocation⟩ := hread.allStandIn.2
  have hplain : Plain chars := hread.hasPlainText
  refine ⟨front, chars.reverse, rest, ?_, hlocation, ?_, hend, tokens, ?_⟩
  · rw [htext, ← hline, List.nil_append]
  · exact fun c hc => hplain c (List.mem_reverse.mp hc)
  · have hclose : (ScanMode.quoted e.location chars).scan (.behind ([] ++ line)) ['"'] =
        .ok [⟨.quoted (.ofList chars.reverse), e.location⟩] := rfl
    rw [tokenize, String.toList_ofList, ← hline]
    exact hread.scan_append hclose

end RouteServer.Config
