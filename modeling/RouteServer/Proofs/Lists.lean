/-! # Lists with unique keys, and lists of pieces -/

namespace RouteServer.Lists

/-! ## Keys -/

variable {α β κ : Type _} [DecidableEq κ] (key : α → κ)

theorem flatMap_of_single {l : List α} {k : κ} {f : α → List β}
    (hnd : l.Pairwise fun a b => key a ≠ key b) (h : ∀ a ∈ l, key a ≠ k → f a = []) :
    l.flatMap f = ((l.find? fun a => key a = k).map f).getD [] := by
  induction l with
  | nil => rfl
  | cons a rest ih =>
    have hrest := fun b hb => h b (List.mem_cons_of_mem a hb)
    rw [List.flatMap_cons]
    by_cases hk : key a = k
    · rw [List.find?_cons_of_pos (by simpa using hk)]
      have hnone : rest.flatMap f = [] := by
        rw [List.flatMap_eq_nil_iff]
        intro b hb
        exact hrest b hb (hk ▸ (List.rel_of_pairwise_cons hnd hb).symm)
      rw [hnone, List.append_nil]
      rfl
    · rw [List.find?_cons_of_neg (by simpa using hk), h a List.mem_cons_self hk]
      exact ih hnd.of_cons hrest

theorem find?_eq_some_iff {l : List α} {k : κ} {a : α}
    (hnd : l.Pairwise fun a b => key a ≠ key b) :
    (l.find? fun b => key b = k) = some a ↔ a ∈ l ∧ key a = k := by
  induction l with
  | nil => simp
  | cons b rest ih =>
    rw [List.mem_cons]
    by_cases hk : key b = k
    · rw [List.find?_cons_of_pos (by simpa using hk), Option.some.injEq]
      constructor
      · rintro rfl
        exact ⟨Or.inl rfl, hk⟩
      · rintro ⟨rfl | ha, hka⟩
        · rfl
        · exact absurd (hk.trans hka.symm) (List.rel_of_pairwise_cons hnd ha)
    · rw [List.find?_cons_of_neg (by simpa using hk), ih hnd.of_cons]
      refine and_congr_left fun hka => ⟨Or.inr, ?_⟩
      rintro (rfl | ha)
      · exact absurd hka hk
      · exact ha

theorem find?_filterMap {l : List α} {k : κ} {f : α → Option α}
    (hnd : l.Pairwise fun a b => key a ≠ key b) (h : ∀ a b, f a = some b → key b = key a) :
    ((l.filterMap f).find? fun a => key a = k) = (l.find? fun a => key a = k).bind f := by
  induction l with
  | nil => rfl
  | cons a rest ih =>
    by_cases hk : key a = k
    · rw [List.find?_cons_of_pos (by simpa using hk)]
      cases hf : f a with
      | some b =>
        rw [List.filterMap_cons_some hf, List.find?_cons_of_pos (by simp [h a b hf, hk])]
        exact hf.symm
      | none =>
        rw [List.filterMap_cons_none hf, ih hnd.of_cons, Option.bind_some, hf]
        rw [List.find?_eq_none.mpr, Option.bind_none]
        intro b hb
        simpa [← hk] using (List.rel_of_pairwise_cons hnd hb).symm
    · rw [List.find?_cons_of_neg (by simpa using hk)]
      cases hf : f a with
      | some b =>
        rw [List.filterMap_cons_some hf, List.find?_cons_of_neg (by simp [h a b hf, hk])]
        exact ih hnd.of_cons
      | none =>
        rw [List.filterMap_cons_none hf]
        exact ih hnd.of_cons

/-! ## One more element -/

theorem concat_eq_append_cons_iff {α : Type _} {l before since : List α} {last a : α} :
    l ++ [last] = before ++ a :: since ↔
      (since = [] ∧ l = before ∧ last = a) ∨ ∃ more, since = more ++ [last] ∧ l = before ++ a :: more := by
  constructor
  · intro h
    rcases List.eq_nil_or_concat since with rfl | ⟨more, b, rfl⟩
    · obtain ⟨hl, hlast⟩ := List.append_inj' h rfl
      exact .inl ⟨rfl, hl, List.singleton_inj.mp hlast⟩
    · rw [List.concat_eq_append, ← List.cons_append, ← List.append_assoc] at h
      obtain ⟨hl, hlast⟩ := List.append_inj' h rfl
      exact .inr ⟨more, by rw [List.concat_eq_append, hlast], hl⟩
  · rintro (⟨rfl, rfl, rfl⟩ | ⟨more, rfl, rfl⟩)
    · rfl
    · rw [List.append_assoc, List.cons_append]

theorem append_eq_append_cons {α : Type _} {a b before after : List α} {x : α}
    (h : a ++ b = before ++ x :: after) :
    (∃ more, before = a ++ more ∧ b = more ++ x :: after) ∨ ∃ more, a = before ++ x :: more ∧ after = more ++ b := by
  rcases List.append_eq_append_iff.mp h with ⟨more, hbefore, hb⟩ | ⟨_ | ⟨y, more⟩, ha, hafter⟩
  · exact .inl ⟨more, hbefore, hb⟩
  · exact .inl ⟨[], by simpa using ha.symm, hafter.symm⟩
  · obtain ⟨rfl, rfl⟩ := List.cons.inj hafter
    exact .inr ⟨more, ha, rfl⟩

/-! ## The last element with a property -/

theorem getLast?_filter_eq_some_iff {α : Type _} {p : α → Bool} {l : List α} {a : α} :
    (l.filter p).getLast? = some a ↔
      ∃ before after, l = before ++ a :: after ∧ p a = true ∧ ∀ x ∈ after, p x = false := by
  rw [List.getLast?_filter, List.find?_eq_some_iff_append]
  constructor
  · rintro ⟨ha, after, before, hsplit, hafter⟩
    refine ⟨before.reverse, after.reverse, ?_, ha, fun x hx => ?_⟩
    · rw [← List.reverse_reverse l, hsplit]
      simp
    · simpa using hafter x (List.mem_reverse.mp hx)
  · rintro ⟨before, after, rfl, ha, hafter⟩
    refine ⟨ha, after.reverse, before.reverse, by simp, fun x hx => ?_⟩
    simpa using hafter x (List.mem_reverse.mp hx)

/-! ## Pieces and what stands between them -/

theorem intercalate_cons_eq (sep first : List α) (rest : List (List α)) :
    sep.intercalate (first :: rest) = first ++ rest.flatMap (sep ++ ·) := by
  induction rest generalizing first with
  | nil => simp
  | cons next rest ih => simp [List.intercalate_cons_cons, ih]

theorem mem_of_mem_intercalate {sep : List α} {texts : List (List α)} {c : α}
    (hc : c ∈ sep.intercalate texts) : c ∈ sep ∨ ∃ text ∈ texts, c ∈ text := by
  induction texts with
  | nil => cases hc
  | cons text rest ih =>
    cases rest with
    | nil =>
      rw [List.intercalate_singleton] at hc
      exact .inr ⟨text, List.mem_singleton_self text, hc⟩
    | cons next rest =>
      rw [List.intercalate_cons_cons, List.append_assoc, List.mem_append, List.mem_append] at hc
      rcases hc with hc | hc | hc
      · exact .inr ⟨text, List.mem_cons_self, hc⟩
      · exact .inl hc
      · rcases ih hc with hsep | ⟨text', htext', hc'⟩
        · exact .inl hsep
        · exact .inr ⟨text', List.mem_cons_of_mem _ htext', hc'⟩

theorem of_mem_splitOnP {α : Type} {p : α → Bool} {l piece : List α} (h : piece ∈ l.splitOnP p) {c : α}
    (hc : c ∈ piece) : c ∈ l ∧ p c = false := by
  induction l generalizing piece with
  | nil =>
    rw [List.splitOnP_nil, List.mem_singleton] at h
    subst h
    cases hc
  | cons a rest ih =>
    have hlater {later : List α} (hlater : later ∈ rest.splitOnP p) (hc : c ∈ later) :
        c ∈ a :: rest ∧ p c = false := (ih hlater hc).imp_left (List.mem_cons_of_mem a)
    obtain ⟨first, more, hsplit⟩ := List.exists_cons_of_ne_nil (List.splitOnP_ne_nil p rest)
    rw [List.splitOnP_cons_eq_if_modifyHead, hsplit] at h
    by_cases ha : p a = true
    · rw [if_pos ha, List.mem_cons] at h
      rcases h with rfl | h
      · cases hc
      · exact hlater (hsplit ▸ h) hc
    · rw [if_neg ha, List.modifyHead_cons, List.mem_cons] at h
      rcases h with rfl | h
      · rcases List.mem_cons.mp hc with rfl | hc
        · exact ⟨List.mem_cons_self, (Bool.not_eq_true _).mp ha⟩
        · exact hlater (hsplit ▸ List.mem_cons_self) hc
      · exact hlater (hsplit ▸ List.mem_cons_of_mem first h) hc

section Pieces

variable {α : Type} [BEq α]

theorem splitOn_append (a b : List α) (x : α) :
    (a ++ b).splitOn x = (a.splitOn x).dropLast ++ ((a.splitOn x).getLastD [] ++ b).splitOn x := by
  induction a with
  | nil => simp
  | cons c rest ih =>
    have hne := List.splitOn_ne_nil x rest
    rw [List.cons_append, List.splitOn_cons_eq_if_modifyHead, List.splitOn_cons_eq_if_modifyHead, ih]
    by_cases hc : c == x
    · obtain ⟨first, more, hsplit⟩ := List.exists_cons_of_ne_nil hne
      simp [hc, hsplit]
    · rw [if_neg hc, if_neg hc]
      rcases hsplit : rest.splitOn x with _ | ⟨first, _ | ⟨second, more⟩⟩
      · exact absurd hsplit hne
      · simp [List.splitOn_cons_eq_if_modifyHead, hc]
      · simp

theorem length_lt_of_mem_splitOn {l piece : List α} {x : α} (h : piece ∈ (l.splitOn x).dropLast) :
    piece.length < l.length := by
  induction l generalizing piece with
  | nil => simp at h
  | cons c rest ih =>
    obtain ⟨first, more, hsplit⟩ := List.exists_cons_of_ne_nil (List.splitOn_ne_nil x rest)
    rw [List.splitOn_cons_eq_if_modifyHead] at h
    by_cases hc : c == x
    · rw [if_pos hc, List.dropLast_cons_of_ne_nil (List.splitOn_ne_nil x rest), List.mem_cons] at h
      rcases h with rfl | h
      · exact Nat.succ_pos _
      · exact Nat.lt_succ_of_lt (ih h)
    · rw [if_neg hc, hsplit, List.modifyHead_cons] at h
      rw [hsplit] at ih
      cases more with
      | nil => cases h
      | cons second more =>
        rw [List.dropLast_cons_of_ne_nil (List.cons_ne_nil _ _), List.mem_cons] at h
        rcases h with rfl | h
        · exact Nat.succ_lt_succ (ih List.mem_cons_self)
        · exact Nat.lt_succ_of_lt (ih (List.mem_cons_of_mem _ h))

variable [LawfulBEq α] {x : α}

theorem notMem_of_mem_splitOn {l piece : List α} (h : piece ∈ l.splitOn x) : x ∉ piece := by
  intro hx
  rw [List.splitOn_eq_splitOnP] at h
  simpa using (of_mem_splitOnP h hx).2

omit [LawfulBEq α] in
theorem mem_of_mem_splitOn {l piece : List α} {c : α} (h : piece ∈ l.splitOn x) (hc : c ∈ piece) : c ∈ l := by
  rw [List.splitOn_eq_splitOnP] at h
  exact (of_mem_splitOnP h hc).1

theorem splitOn_append_of_notMem {a : List α} (h : x ∉ a) (b : List α) :
    (a ++ b).splitOn x = (b.splitOn x).modifyHead (a ++ ·) := by
  induction a with
  | nil =>
    have hid : (fun piece : List α => [] ++ piece) = id := rfl
    rw [hid, List.modifyHead_id, id, List.nil_append]
  | cons c rest ih =>
    have hc : ¬ (c == x) = true := fun heq => h (eq_of_beq heq ▸ List.mem_cons_self)
    rw [List.cons_append, List.splitOn_cons_eq_if_modifyHead, if_neg hc,
      ih fun hmem => h (List.mem_cons_of_mem c hmem), List.modifyHead_modifyHead]
    rfl

theorem exists_splitOn_append {a : List α} (h : x ∉ a) (b : List α) :
    ∃ more pieces, (a ++ b).splitOn x = (a ++ more) :: pieces := by
  obtain ⟨first, pieces, hsplit⟩ := List.exists_cons_of_ne_nil (List.splitOn_ne_nil x b)
  exact ⟨first, pieces, by rw [splitOn_append_of_notMem h, hsplit, List.modifyHead_cons]⟩

end Pieces

end RouteServer.Lists
