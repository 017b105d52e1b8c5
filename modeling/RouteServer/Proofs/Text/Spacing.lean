import RouteServer.Proofs.Text

/-! # Spacing

White space only keeps words apart. A text and its words with single spaces between them hold the same words,
and so does each piece of a text that is cut at a sign.
-/

namespace RouteServer.Text

variable {sign c : Char}

theorem wordChars_unbroken {cs : List Char} (h : ∀ c ∈ cs, isBlank c = false) :
    wordChars cs = if cs = [] then [] else [cs] := by
  rw [wordChars, List.splitOnP_eq_singleton h]
  by_cases hnil : cs = [] <;> simp [hnil]

/-! ## The words of each piece -/

/-- The words of each piece of a text between signs. -/
def pieceWords (sign : Char) (cs : List Char) : List (List (List Char)) :=
  (cs.splitOn sign).map wordChars

/-- Two lists of pieces of which the last one and the first one are a single piece. -/
def joinEnds {α : Type} (a b : List (List α)) : List (List α) :=
  a.dropLast ++ (a.getLastD [] ++ b.headD []) :: b.tail

theorem pieceWords_ne_nil (sign : Char) (cs : List Char) : pieceWords sign cs ≠ [] := by
  simp [pieceWords, List.splitOn_ne_nil]

theorem joinEnds_nil_left {α : Type} {b : List (List α)} (hb : b ≠ []) : joinEnds [[]] b = b := by
  obtain ⟨first, rest, rfl⟩ := List.exists_cons_of_ne_nil hb
  rfl

theorem joinEnds_nil_right {α : Type} {a : List (List α)} (ha : a ≠ []) : joinEnds a [[]] = a := by
  rw [joinEnds, List.headD_cons, List.tail_cons, List.append_nil, List.getLastD_eq_getLast?,
    List.getLast?_eq_some_getLast ha, Option.getD_some, List.dropLast_concat_getLast ha]

theorem pieceWords_append_blank (hc : isBlank c = true) (hsign : isBlank sign = false)
    (a b : List Char) :
    pieceWords sign (a ++ c :: b) = joinEnds (pieceWords sign a) (pieceWords sign b) := by
  have hne : ¬ (c == sign) = true := by
    rw [beq_iff_eq]
    rintro rfl
    exact Bool.eq_false_iff.mp hsign hc
  obtain ⟨first, rest, hb⟩ := List.exists_cons_of_ne_nil (List.splitOn_ne_nil sign b)
  obtain ⟨front, last, ha⟩ : ∃ front last, a.splitOn sign = front ++ [last] :=
    ⟨_, _, (List.dropLast_concat_getLast (List.splitOn_ne_nil sign a)).symm⟩
  have hlast : sign ∉ last := Lists.notMem_of_mem_splitOn (l := a) (by simp [ha])
  have hcut : (last ++ c :: b).splitOn sign = (last ++ c :: first) :: rest := by
    rw [Lists.splitOn_append_of_notMem hlast, List.splitOn_cons_eq_if_modifyHead, if_neg hne, hb]
    rfl
  rw [pieceWords, Lists.splitOn_append, ha]
  simp [pieceWords, ha, hb, hcut, joinEnds, wordChars_append_blank hc]

theorem pieceWords_intercalate_wordChars (hsign : isBlank sign = false) (word rest : List Char)
    (hword : ∀ c ∈ word, isBlank c = false) :
    pieceWords sign ([' '].intercalate (wordChars (word ++ rest))) = pieceWords sign (word ++ rest) := by
  -- The word that the text begins with is kept aside, since white space may still follow it.
  induction rest generalizing word with
  | nil =>
    rw [List.append_nil, wordChars_unbroken hword]
    split <;> simp [*]
  | cons c rest ih =>
    cases hc : isBlank c with
    | false =>
      rw [List.append_cons]
      refine ih (word ++ [c]) fun d hd => ?_
      rcases List.mem_append.mp hd with hd | hd
      · exact hword d hd
      · exact List.mem_singleton.mp hd ▸ hc
    | true =>
      have hrest : pieceWords sign ([' '].intercalate (wordChars rest)) = pieceWords sign rest :=
        ih [] (by simp)
      rw [wordChars_append_blank hc, wordChars_unbroken hword, pieceWords_append_blank hc hsign]
      by_cases hnil : word = []
      · rw [if_pos hnil, List.nil_append, hrest, hnil]
        exact (joinEnds_nil_left (pieceWords_ne_nil sign rest)).symm
      · rw [if_neg hnil, List.singleton_append]
        cases hwords : wordChars rest with
        | nil =>
          rw [hwords] at hrest
          rw [List.intercalate_singleton, ← hrest]
          exact (joinEnds_nil_right (pieceWords_ne_nil sign word)).symm
        | cons next more =>
          rw [hwords] at hrest
          rw [List.intercalate_cons_cons, List.append_assoc, List.singleton_append,
            pieceWords_append_blank rfl hsign, hrest]

theorem pieceWords_unwords_words (hsign : isBlank sign = false) (text : String) :
    pieceWords sign (unwords (words text)).toList = pieceWords sign text.toList := by
  have hchars : (unwords (words text)).toList = [' '].intercalate (wordChars text.toList) := by
    rw [unwords, words, String.toList_intercalate, List.map_map]
    simp [Function.comp_def]
  rw [hchars]
  exact pieceWords_intercalate_wordChars hsign [] text.toList (by simp)

end RouteServer.Text
