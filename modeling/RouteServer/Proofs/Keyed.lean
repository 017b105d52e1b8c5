import RouteServer.Keyed
import RouteServer.Proofs.Lists

/-! # Finite maps: looking up after every operation

Two maps are compared by what `get?` finds in them, and every operation says what `get?` finds after it.
-/

namespace RouteServer.Keyed

variable {κ : Type u} {β : Type v} {γ : Type w} [Ord κ]

theorem contains_iff {m : Keyed κ β} {k : κ} : m.contains k = true ↔ ∃ v, m.get? k = some v := by
  rw [contains, Option.isSome_iff_exists]

/-! ## Keys -/

theorem mem_keys_insert [Std.TransOrd κ] {m : Keyed κ β} {k k' : κ} {v : β}
    (h : k' ∈ (m.insert k v).keys) : k' = k ∨ k' ∈ m.keys := by
  obtain ⟨entry, hentry, rfl⟩ := List.mem_map.mp h
  exact (mem_of_mem_insertEntry hentry).imp (congrArg Prod.fst) List.mem_map_of_mem

theorem mem_keys_foldl_upsert [Std.TransOrd κ] {m : Keyed κ β} {ks : List κ} {f : Option β → β} {k : κ}
    (h : k ∈ (ks.foldl (fun m k => m.upsert k f) m).keys) : k ∈ ks ∨ k ∈ m.keys := by
  induction ks generalizing m with
  | nil => exact .inr h
  | cons first rest ih =>
    rcases ih h with h | h
    · exact .inl (List.mem_cons_of_mem first h)
    · exact (mem_keys_insert h).imp_left fun heq => List.mem_cons.mpr (.inl heq)

theorem mem_keys_ofList [Std.TransOrd κ] {entries : List (κ × β)} {k : κ}
    (h : k ∈ (ofList entries).keys) : k ∈ entries.map (·.1) := by
  have hfoldl : ∀ m : Keyed κ β, k ∈ (entries.foldl (fun m e => m.insert e.1 e.2) m).keys →
      k ∈ entries.map (·.1) ∨ k ∈ m.keys := by
    clear h
    induction entries with
    | nil => exact fun m => .inr
    | cons entry rest ih =>
      intro m h
      rcases ih _ h with h | h
      · exact .inl (List.mem_cons_of_mem _ h)
      · exact (mem_keys_insert h).imp_left fun heq => List.mem_cons.mpr (.inl heq)
  exact (hfoldl empty h).resolve_right List.not_mem_nil

/-! ## Entries -/

variable [Std.LawfulEqOrd κ]

theorem ne_of_compare_lt {a b : κ} (h : compare a b = .lt) : a ≠ b := by
  rintro rfl
  simp at h

theorem keys_nodup (m : Keyed κ β) : m.keys.Nodup := by
  rw [keys, List.Nodup, List.pairwise_map]
  exact m.sorted.imp ne_of_compare_lt

theorem find?_eq_some_iff {l : List (κ × β)} (h : l.Pairwise fun a b => compare a.1 b.1 = .lt)
    {k : κ} {v : β} :
    (l.find? fun entry => compare k entry.1 == .eq).map (·.2) = some v ↔ (k, v) ∈ l := by
  induction l with
  | nil => simp
  | cons entry rest ih =>
    have hne : ∀ e ∈ rest, e.1 ≠ entry.1 := fun e he =>
      (ne_of_compare_lt (List.rel_of_pairwise_cons h he)).symm
    by_cases hk : k = entry.1
    · subst hk
      rw [List.find?_cons_of_pos (by simp), Option.map_some, Option.some.injEq, List.mem_cons]
      constructor
      · rintro rfl
        exact Or.inl rfl
      · rintro (heq | hmem)
        · exact (congrArg Prod.snd heq).symm
        · exact absurd rfl (hne (entry.1, v) hmem)
    · rw [List.find?_cons_of_neg (by simpa using hk), ih h.of_cons, List.mem_cons]
      constructor
      · exact Or.inr
      · rintro (heq | hmem)
        · exact absurd (congrArg Prod.fst heq) hk
        · exact hmem

theorem get?_eq_some_iff {m : Keyed κ β} {k : κ} {v : β} :
    m.get? k = some v ↔ (k, v) ∈ m.toList := find?_eq_some_iff m.sorted

theorem mem_keys_iff {m : Keyed κ β} {k : κ} : k ∈ m.keys ↔ ∃ v, m.get? k = some v := by
  simp [keys, get?_eq_some_iff]

theorem mem_map_filter {m : Keyed κ β} {p : κ × β → Bool} {k : κ} :
    k ∈ (m.toList.filter p).map (·.1) ↔ ∃ v, m.get? k = some v ∧ p (k, v) = true := by
  simp [get?_eq_some_iff]

theorem flatMap_toList_of_single [DecidableEq κ] (m : Keyed κ β) (k : κ) (f : κ × β → List γ)
    (h : ∀ entry, entry.1 ≠ k → f entry = []) :
    m.toList.flatMap f = ((m.get? k).map fun v => f (k, v)).getD [] := by
  have hnd : m.toList.Pairwise fun a b => a.1 ≠ b.1 := m.sorted.imp ne_of_compare_lt
  have hkey : ∀ entry : κ × β, (compare k entry.1 == .eq) = decide (entry.1 = k) := by
    intro entry
    rw [Bool.eq_iff_iff, Std.compare_beq_iff_eq, decide_eq_true_eq]
    exact eq_comm
  rw [Lists.flatMap_of_single Prod.fst hnd fun entry _ => h entry, get?]
  simp only [hkey]
  cases hfind : m.toList.find? fun entry => entry.1 = k with
  | none => rfl
  | some entry =>
    obtain rfl : entry.1 = k := by simpa using List.find?_some hfind
    rfl

theorem ext_get? [Std.TransOrd κ] {m m' : Keyed κ β} (h : ∀ k, m.get? k = m'.get? k) : m = m' := by
  have hmem : ∀ e, e ∈ m.toList ↔ e ∈ m'.toList := by
    intro e
    rw [← get?_eq_some_iff, ← get?_eq_some_iff, h]
  have hnodup : ∀ m : Keyed κ β, m.toList.Nodup := fun m =>
    m.sorted.imp fun hlt heq => ne_of_compare_lt hlt (congrArg Prod.fst heq)
  have hperm := (List.perm_ext_iff_of_nodup (hnodup m) (hnodup m')).mpr hmem
  have hasymm : ∀ a b : κ × β, a ∈ m.toList → b ∈ m'.toList → compare a.1 b.1 = .lt →
      compare b.1 a.1 = .lt → a = b :=
    fun a b _ _ hab hba => absurd hba (Std.OrientedCmp.not_lt_of_lt hab)
  have hlists : m.toList = m'.toList := hperm.eq_of_pairwise hasymm m.sorted m'.sorted
  cases m
  cases m'
  congr

theorem toList_eq_filterMap [Std.TransOrd κ] {all : List κ} (hsorted : all.Pairwise fun a b => compare a b = .lt)
    (hall : ∀ k, k ∈ all) (m : Keyed κ β) :
    m.toList = all.filterMap fun k => (m.get? k).map (k, ·) := by
  have hkey : ∀ k v, (k, v) ∈ all.filterMap (fun k => (m.get? k).map (k, ·)) ↔ m.get? k = some v := by
    simp [hall]
  let listed : Keyed κ β := ⟨all.filterMap fun k => (m.get? k).map (k, ·), by
    refine List.pairwise_filterMap.mpr (hsorted.imp ?_)
    rintro k k' hlt _ hv _ hv'
    obtain ⟨v, -, rfl⟩ := Option.map_eq_some_iff.mp hv
    obtain ⟨v', -, rfl⟩ := Option.map_eq_some_iff.mp hv'
    exact hlt⟩
  have hsame : m = listed := ext_get? fun k => Option.ext fun v => by
    rw [← hkey, ← get?_eq_some_iff (m := listed)]
  exact congrArg toList hsame

/-! ## Operations -/

@[simp]
theorem get?_mapEntries (f : κ → β → γ) (m : Keyed κ β) (k : κ) :
    (m.mapEntries f).get? k = (m.get? k).map (f k) := by
  ext w
  simp only [get?_eq_some_iff, Option.map_eq_some_iff, mapEntries, List.mem_map, Prod.exists,
    Prod.mk.injEq]
  constructor
  · rintro ⟨k', v, hmem, rfl, rfl⟩
    exact ⟨v, hmem, rfl⟩
  · rintro ⟨v, hmem, rfl⟩
    exact ⟨k, v, hmem, rfl, rfl⟩

theorem get?_filter (p : κ → β → Bool) (m : Keyed κ β) (k : κ) :
    (m.filter p).get? k = (m.get? k).filter (p k) := by
  ext v
  rw [get?_eq_some_iff, Option.filter_eq_some_iff, get?_eq_some_iff, filter, List.mem_filter]

theorem mem_insertEntry [Std.TransOrd κ] {k : κ} {v : β} {e : κ × β} {l : List (κ × β)}
    (h : l.Pairwise fun a b => compare a.1 b.1 = .lt) :
    e ∈ insertEntry k v l ↔ e = (k, v) ∨ e ∈ l ∧ e.1 ≠ k := by
  induction l with
  | nil => simp [insertEntry]
  | cons entry rest ih =>
    obtain ⟨k', v'⟩ := entry
    have hrest : ∀ e ∈ rest, compare k' e.1 = .lt := fun e he => List.rel_of_pairwise_cons h he
    have hne : ∀ {e : κ × β}, compare k e.1 = .lt → e.1 ≠ k := fun hlt =>
      (ne_of_compare_lt hlt).symm
    unfold insertEntry
    split
    · rename_i hlt
      have hall : ∀ e ∈ (k', v') :: rest, e.1 ≠ k := by
        intro e he
        rcases List.mem_cons.mp he with rfl | he
        · exact hne hlt
        · exact hne (Std.TransCmp.lt_trans hlt (hrest e he))
      rw [List.mem_cons]
      exact or_congr_right ⟨fun he => ⟨he, hall e he⟩, And.left⟩
    · rename_i heq
      obtain rfl := Std.LawfulEqOrd.eq_of_compare heq
      have hall : ∀ e ∈ rest, e.1 ≠ k := fun e he => hne (hrest e he)
      rw [List.mem_cons, List.mem_cons]
      refine or_congr_right ⟨fun he => ⟨Or.inr he, hall e he⟩, ?_⟩
      rintro ⟨rfl | he, hk⟩
      · exact absurd rfl hk
      · exact he
    · rename_i hgt
      have hk' : k' ≠ k := by
        rintro rfl
        simp at hgt
      rw [List.mem_cons, ih h.of_cons, List.mem_cons]
      constructor
      · rintro (rfl | rfl | ⟨he, hk⟩)
        · exact Or.inr ⟨Or.inl rfl, hk'⟩
        · exact Or.inl rfl
        · exact Or.inr ⟨Or.inr he, hk⟩
      · rintro (rfl | ⟨rfl | he, hk⟩)
        · exact Or.inr (Or.inl rfl)
        · exact Or.inl rfl
        · exact Or.inr (Or.inr ⟨he, hk⟩)

variable [DecidableEq κ]

theorem get?_modify (m : Keyed κ β) (k k' : κ) (f : β → β) :
    (m.modify k f).get? k' = if k' = k then (m.get? k').map f else m.get? k' := by
  rw [modify, get?_mapEntries]
  by_cases hk : k' = k
  · subst hk
    simp
  · simp [hk, Ne.symm hk]

theorem get?_insert [Std.TransOrd κ] (m : Keyed κ β) (k k' : κ) (v : β) :
    (m.insert k v).get? k' = if k' = k then some v else m.get? k' := by
  ext w
  rw [get?_eq_some_iff, insert, mem_insertEntry m.sorted]
  by_cases hk : k' = k
  · subst hk
    simp [eq_comm]
  · simp [hk, get?_eq_some_iff]

theorem get?_upsert [Std.TransOrd κ] (m : Keyed κ β) (k k' : κ) (f : Option β → β) :
    (m.upsert k f).get? k' = if k' = k then some (f (m.get? k)) else m.get? k' := get?_insert ..

theorem get?_foldl_upsert [Std.TransOrd κ] (m : Keyed κ β) (other : Keyed κ γ) (f : γ → Option β → β)
    (k : κ) : (other.toList.foldl (fun m entry => m.upsert entry.1 (f entry.2)) m).get? k =
      (other.get? k).elim (m.get? k) fun v => some (f v (m.get? k)) := by
  have hdistinct : other.toList.Pairwise fun a b => a.1 ≠ b.1 := other.sorted.imp ne_of_compare_lt
  have hget : other.get? k = (other.toList.find? fun entry => compare k entry.1 == .eq).map (·.2) := rfl
  rw [hget]
  generalize other.toList = entries at hdistinct ⊢
  induction entries generalizing m with
  | nil => rfl
  | cons entry rest ih =>
    rw [List.foldl_cons, ih _ hdistinct.of_cons, get?_upsert]
    by_cases hk : k = entry.1
    · subst hk
      have hnone : rest.find? (fun e => compare entry.1 e.1 == .eq) = none := by
        rw [List.find?_eq_none]
        intro e he
        simpa using List.rel_of_pairwise_cons hdistinct he
      rw [List.find?_cons_of_pos (by simp), hnone]
      simp
    · rw [List.find?_cons_of_neg (by simpa using hk), if_neg hk]

theorem get?_foldl_upsert_keys [Std.TransOrd κ] (m : Keyed κ β) (other : Keyed κ γ) (f : Option β → β) (k : κ) :
    (other.keys.foldl (fun m k => m.upsert k f) m).get? k =
      if k ∈ other.keys then some (f (m.get? k)) else m.get? k := by
  rw [keys, List.foldl_map]
  refine (get?_foldl_upsert m other (fun _ => f) k).trans ?_
  rw [← keys]
  cases h : other.get? k <;> simp [mem_keys_iff, h]

theorem get?_ofList_map [Std.TransOrd κ] (ks : List κ) (f : κ → β) (k : κ) :
    (ofList (ks.map fun k => (k, f k))).get? k = if k ∈ ks then some (f k) else none := by
  have hfoldl : ∀ m : Keyed κ β,
      ((ks.map fun k => (k, f k)).foldl (fun m entry => m.insert entry.1 entry.2) m).get? k =
        if k ∈ ks then some (f k) else m.get? k := by
    induction ks with
    | nil => simp
    | cons first rest ih =>
      intro m
      rw [List.map_cons, List.foldl_cons, ih, get?_insert]
      by_cases hmem : k ∈ rest
      · simp [hmem]
      · by_cases hk : k = first <;> simp [hmem, hk]
  exact hfoldl empty

theorem get?_ofList [Std.TransOrd κ] {entries : List (κ × β)} (h : (entries.map (·.1)).Nodup) {k : κ}
    {v : β} : (ofList entries).get? k = some v ↔ (k, v) ∈ entries := by
  have hfoldl : ∀ m : Keyed κ β, (entries.foldl (fun m e => m.insert e.1 e.2) m).get? k = some v ↔
      (k, v) ∈ entries ∨ k ∉ entries.map (·.1) ∧ m.get? k = some v := by
    induction entries with
    | nil => simp
    | cons entry rest ih =>
      obtain ⟨hentry, hrest⟩ := List.nodup_cons.mp h
      intro m
      rw [List.foldl_cons, ih hrest, get?_insert, List.mem_cons, List.map_cons, List.mem_cons]
      by_cases hk : k = entry.1
      · subst hk
        have hnew : (entry.1, v) ∉ rest := fun hmem => hentry (List.mem_map.mpr ⟨_, hmem, rfl⟩)
        have hvalue : entry.2 = v ↔ (entry.1, v) = entry := by
          constructor
          · rintro rfl
            rfl
          · exact fun heq => (congrArg Prod.snd heq).symm
        simp [hentry, hnew, hvalue]
      · have hother : (k, v) ≠ entry := fun heq => hk (congrArg Prod.fst heq)
        simp [hk, hother]
  rw [ofList, hfoldl]
  simp [get?, empty]

theorem ofList_toList [Std.TransOrd κ] (m : Keyed κ β) : ofList m.toList = m := by
  refine ext_get? fun k => Option.ext fun v => ?_
  rw [get?_ofList m.keys_nodup, get?_eq_some_iff]

theorem get?_erase (m : Keyed κ β) (k k' : κ) :
    (m.erase k).get? k' = if k' = k then none else m.get? k' := by
  ext w
  rw [get?_eq_some_iff]
  by_cases hk : k' = k
  · subst hk
    simp [erase]
  · simp [erase, hk, Ne.symm hk, get?_eq_some_iff]

end RouteServer.Keyed
