import RouteServer.Proofs.Lists
import RouteServer.Text.Blank
import RouteServer.Text.Decimal

/-! # Reading numbers and cutting text up -/

namespace RouteServer

namespace Text

/-! ## Parts -/

theorem containsChars_iff {needle text : List Char} : containsChars needle text = true ↔ needle <:+: text := by
  induction text with
  | nil => simp [containsChars]
  | cons c rest ih => simp [containsChars, ih, List.infix_cons_iff]

theorem contains_iff {text needle : String} :
    contains text needle = true ↔ needle.toList <:+: text.toList := containsChars_iff

theorem splitOnChar_intercalate {sign : Char} {sep : String} (hsep : sep.toList = [sign]) {texts : List String}
    (hne : texts ≠ []) (h : ∀ text ∈ texts, sign ∉ text.toList) :
    splitOnChar sign (sep.intercalate texts) = texts := by
  have hunjoined : ∀ cs ∈ texts.map String.toList, sign ∉ cs := by simpa using h
  rw [splitOnChar, String.toList_intercalate, hsep, List.splitOn_intercalate sign hunjoined (by simpa using hne)]
  simp

/-! ## The last space -/

theorem exists_last_space {text : String} (h : ' ' ∈ text.toList) :
    ∃ front word, text = front ++ " " ++ word ∧ ' ' ∉ word.toList := by
  obtain ⟨behind, before, hreversed, hnot⟩ :=
    List.eq_append_cons_of_mem (List.mem_reverse.mpr h)
  refine ⟨.ofList before.reverse, .ofList behind.reverse, ?_, by simpa using hnot⟩
  rw [← String.toList_inj, ← List.reverse_reverse text.toList, hreversed]
  simp

theorem ne_space_of_mem_reverse {text : String} (h : ' ' ∉ text.toList) :
    ∀ c ∈ text.toList.reverse, decide (c ≠ ' ') = true := by
  intro c hc
  rw [decide_eq_true_eq]
  rintro rfl
  exact h (List.mem_reverse.mp hc)

theorem splitLastSpace_append (front : String) {word : String} (h : ' ' ∉ word.toList) :
    splitLastSpace (front ++ " " ++ word) = some (front, word) := by
  have hreversed : (front ++ " " ++ word).toList.reverse =
      word.toList.reverse ++ ' ' :: front.toList.reverse := by simp
  simp only [splitLastSpace, hreversed]
  rw [List.dropWhile_append_of_pos (ne_space_of_mem_reverse h),
    List.takeWhile_append_of_pos (ne_space_of_mem_reverse h)]
  simp

theorem splitLastSpace_of_notMem {text : String} (h : ' ' ∉ text.toList) :
    splitLastSpace text = none := by
  have hnil : text.toList.reverse.dropWhile (· ≠ ' ') = [] := by
    rw [← List.append_nil text.toList.reverse,
      List.dropWhile_append_of_pos (ne_space_of_mem_reverse h), List.dropWhile_nil]
  simp only [splitLastSpace, hnil]

/-! ## Words -/

theorem isBlank_of_visible {c : Char} (h : 0x20 < c.toNat ∧ c.toNat < 0x85) : isBlank c = false := by
  simp only [isBlank, Bool.or_eq_false_iff, Bool.and_eq_false_iff, decide_eq_false_iff_not, beq_eq_false_iff_ne]
  omega

theorem isBlank_of_isDigit {c : Char} (h : c.isDigit = true) : isBlank c = false := by
  have hdigit := Char.isDigit_iff_toNat.mp h
  simp only [Char.reduceToNat] at hdigit
  exact isBlank_of_visible (by omega)

/-- A text that is one word: it is not empty and holds no white space. -/
structure IsWord (word : String) : Prop where
  nonempty : word ≠ ""
  unbroken : ∀ c ∈ word.toList, isBlank c = false

theorem isWord_iff {word : String} : IsWord word ↔ word ≠ "" ∧ word.toList.any isBlank = false := by
  simp only [List.any_eq_false, Bool.not_eq_true]
  exact ⟨fun h => ⟨h.nonempty, h.unbroken⟩, fun h => ⟨h.1, h.2⟩⟩

instance (word : String) : Decidable (IsWord word) := decidable_of_iff _ isWord_iff.symm

theorem IsWord.intercalate {sep : String} {ws : List String} (hsep : ∀ c ∈ sep.toList, isBlank c = false)
    (hne : ws ≠ []) (h : ∀ word ∈ ws, IsWord word) : IsWord (sep.intercalate ws) := by
  constructor
  · intro hempty
    obtain ⟨first, rest, rfl⟩ := List.exists_cons_of_ne_nil hne
    have hfirst : first.toList ≠ [] := fun hnil =>
      (h first List.mem_cons_self).nonempty (String.toList_inj.mp hnil)
    have hnil := congrArg String.toList hempty
    rw [String.toList_intercalate] at hnil
    cases rest with
    | nil => exact hfirst (by simpa using hnil)
    | cons next rest =>
      simp only [List.map_cons, List.intercalate_cons_cons, List.append_assoc] at hnil
      exact hfirst (List.append_eq_nil_iff.mp hnil).1
  · intro c hc
    rw [String.toList_intercalate] at hc
    rcases Lists.mem_of_mem_intercalate hc with hc | ⟨text, htext, hc⟩
    · exact hsep c hc
    · obtain ⟨word, hword, rfl⟩ := List.mem_map.mp htext
      exact (h word hword).unbroken c hc

theorem IsWord.kept {word : String} (h : IsWord word) : decide (word.toList ≠ []) = true := by
  rw [decide_eq_true_eq]
  exact fun hnil => h.nonempty (String.toList_inj.mp hnil)

theorem of_mem_words {text word : String} (h : word ∈ words text) :
    IsWord word ∧ ∀ c ∈ word.toList, c ∈ text.toList := by
  obtain ⟨cs, hcs, rfl⟩ := List.mem_map.mp h
  obtain ⟨hpiece, hne⟩ := List.mem_filter.mp hcs
  rw [String.toList_ofList]
  refine ⟨⟨fun hempty => ?_, fun c hc => ?_⟩, fun c hc => (Lists.of_mem_splitOnP hpiece hc).1⟩
  · exact of_decide_eq_true hne (by simpa using hempty)
  · exact (Lists.of_mem_splitOnP hpiece (by simpa using hc)).2

theorem wordChars_append_blank {c : Char} (hc : isBlank c = true) (a b : List Char) :
    wordChars (a ++ c :: b) = wordChars a ++ wordChars b := by
  rw [wordChars, List.splitOnP_append_cons a b hc, List.filter_append]
  rfl

theorem wordChars_word {word : String} (h : IsWord word) : wordChars word.toList = [word.toList] := by
  rw [wordChars, List.splitOnP_eq_singleton h.unbroken]
  exact List.filter_cons_of_pos h.kept

theorem words_word {word : String} (h : IsWord word) : words word = [word] := by
  rw [words, wordChars_word h, List.map_singleton, String.ofList_toList]

theorem words_append_space (front rest : String) : words (front ++ " " ++ rest) = words front ++ words rest := by
  have htext : (front ++ " " ++ rest).toList = front.toList ++ ' ' :: rest.toList := by simp
  rw [words, htext, wordChars_append_blank rfl, List.map_append]
  rfl

theorem words_unwords_eq (texts : List String) : words (unwords texts) = texts.flatMap words := by
  have hchars : ∀ css : List (List Char), wordChars ([' '].intercalate css) = css.flatMap wordChars := by
    intro css
    induction css with
    | nil => rfl
    | cons cs rest ih =>
      cases rest with
      | nil => simp
      | cons next rest =>
        rw [List.intercalate_cons_cons, List.append_assoc, List.singleton_append, wordChars_append_blank rfl, ih]
        rfl
  have hspace : " ".toList = [' '] := rfl
  rw [words, unwords, String.toList_intercalate, hspace, hchars, List.flatMap_map, List.map_flatMap]
  rfl

theorem words_unwords {ws : List String} (h : ∀ word ∈ ws, IsWord word) : words (unwords ws) = ws := by
  rw [words_unwords_eq]
  induction ws with
  | nil => rfl
  | cons word rest ih =>
    obtain ⟨hword, hrest⟩ := List.forall_mem_cons.mp h
    rw [List.flatMap_cons, words_word hword, ih hrest]
    rfl

/-! ## Lines -/

/-- A text that is one line: it holds no line feed, and neither is it empty nor ends with a return. -/
structure IsLine (line : String) : Prop where
  unbroken : '\n' ∉ line.toList
  ending : ∃ c, line.toList.getLast? = some c ∧ c ≠ '\r'

theorem IsLine.append {front : String} (hfront : '\n' ∉ front.toList) {line : String} (h : IsLine line) :
    IsLine (front ++ line) := by
  obtain ⟨c, hlast, hc⟩ := h.ending
  constructor
  · rw [String.toList_append, List.mem_append, not_or]
    exact ⟨hfront, h.unbroken⟩
  · refine ⟨c, ?_, hc⟩
    rw [String.toList_append, List.getLast?_append, hlast]
    rfl

theorem IsLine.dropReturn_eq {line : String} (h : IsLine line) : dropReturn line.toList = line.toList := by
  obtain ⟨c, hlast, hc⟩ := h.ending
  rw [dropReturn, hlast, if_neg]
  exact fun heq => hc (Option.some.inj heq)

theorem lines_intercalate {ls : List String} (h : ∀ line ∈ ls, IsLine line) (hne : ls ≠ []) :
    lines ("\n".intercalate ls) = ls := by
  have hunbroken : ∀ line ∈ ls.map String.toList, '\n' ∉ line := by
    intro line hline
    obtain ⟨line, hmem, rfl⟩ := List.mem_map.mp hline
    exact (h line hmem).unbroken
  have hsplit : ("\n".intercalate ls).toList.splitOn '\n' = ls.map String.toList := by
    rw [String.toList_intercalate]
    exact List.splitOn_intercalate '\n' hunbroken (by simpa using hne)
  obtain ⟨front, last, rfl⟩ : ∃ front last, ls = front ++ [last] :=
    ⟨_, _, (List.dropLast_concat_getLast hne).symm⟩
  have hfront : (front.map String.toList).map dropReturn = front.map String.toList := by
    rw [List.map_map]
    exact List.map_congr_left fun line hline => (h line (List.mem_append_left _ hline)).dropReturn_eq
  have hlast : last.toList ≠ [] := by
    obtain ⟨c, hc, -⟩ := (h last (by simp)).ending
    intro hnil
    rw [hnil] at hc
    cases hc
  rw [lines, lineChars, hsplit]
  simp only [List.map_append, List.map_singleton, List.dropLast_concat, hfront]
  simp [hlast]

end Text

namespace Decimal

/-! ## Codes -/

/-- A word that is a code: digits alone, with any number of zeros in front, of a value that fits. -/
structure IsCode (word : String) (code : UInt32) : Prop where
  nonempty : word ≠ ""
  digits : ∀ c ∈ word.toList, c.isDigit = true
  value : Nat.ofDigitChars 10 word.toList 0 = code.toNat

theorem readCode?_eq_some_iff {word : String} {code : UInt32} :
    readCode? word = some code ↔ IsCode word code := by
  have hread : readCode? word = some code ↔
      (word.toList ≠ [] ∧ word.toList.all Char.isDigit = true) ∧
        Nat.ofDigitChars 10 word.toList 0 < UInt32.size ∧
          UInt32.ofNat (Nat.ofDigitChars 10 word.toList 0) = code := by
    simp only [readCode?, digits?, Option.map_eq_some_iff, Option.filter_eq_some_iff,
      Option.ite_none_right_eq_some, Option.some.injEq, decide_eq_true_eq]
    constructor
    · rintro ⟨n, ⟨⟨hdigits, rfl⟩, hlt⟩, hcode⟩
      exact ⟨hdigits, hlt, hcode⟩
    · rintro ⟨hdigits, hlt, hcode⟩
      exact ⟨_, ⟨⟨hdigits, rfl⟩, hlt⟩, hcode⟩
  rw [hread, List.all_eq_true]
  constructor
  · rintro ⟨⟨hne, hdigits⟩, hlt, rfl⟩
    exact ⟨fun h => hne (by simp [h]), hdigits, (UInt32.toNat_ofNat_of_lt hlt).symm⟩
  · rintro ⟨hne, hdigits, hvalue⟩
    refine ⟨⟨fun h => hne (String.toList_inj.mp h), hdigits⟩, hvalue ▸ code.toNat_lt, ?_⟩
    rw [hvalue, UInt32.ofNat_toNat]

end Decimal

end RouteServer
