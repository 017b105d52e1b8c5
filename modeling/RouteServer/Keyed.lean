/-! # Finite maps in the order of their keys

A map is the list of its entries with strictly increasing keys, so that two maps with the same entries
are equal and a walk over a map meets the keys in order.
-/

namespace RouteServer

/-- A finite map: entries with strictly increasing keys. -/
structure Keyed (κ : Type u) (β : Type v) [Ord κ] where
  toList : List (κ × β)
  sorted : toList.Pairwise fun a b => compare a.1 b.1 = .lt
deriving DecidableEq, Repr

namespace Keyed

variable {κ : Type u} {β : Type v} {γ : Type w} [Ord κ]

/-! ## Looking up -/

def empty : Keyed κ β := ⟨[], .nil⟩

instance : EmptyCollection (Keyed κ β) := ⟨empty⟩
instance : Inhabited (Keyed κ β) := ⟨empty⟩

def keys (m : Keyed κ β) : List κ := m.toList.map (·.1)

def size (m : Keyed κ β) : Nat := m.toList.length

def isEmpty (m : Keyed κ β) : Bool := m.toList.isEmpty

def get? (m : Keyed κ β) (k : κ) : Option β :=
  (m.toList.find? fun entry => compare k entry.1 == .eq).map (·.2)

def contains (m : Keyed κ β) (k : κ) : Bool := (m.get? k).isSome

/-! ## Changing values -/

def mapEntries (f : κ → β → γ) (m : Keyed κ β) : Keyed κ γ :=
  ⟨m.toList.map fun entry => (entry.1, f entry.1 entry.2), by
    simpa [List.pairwise_map] using m.sorted⟩

def modify (m : Keyed κ β) (k : κ) (f : β → β) : Keyed κ β :=
  m.mapEntries fun k' v => if compare k k' == .eq then f v else v

def filter (p : κ → β → Bool) (m : Keyed κ β) : Keyed κ β :=
  ⟨m.toList.filter fun entry => p entry.1 entry.2, m.sorted.filter _⟩

/-! ## Adding entries -/

/-- Puts an entry at its place, instead of one with the same key. -/
def insertEntry (k : κ) (v : β) : List (κ × β) → List (κ × β)
  | [] => [(k, v)]
  | (k', v') :: rest =>
    match compare k k' with
    | .lt => (k, v) :: (k', v') :: rest
    | .eq => (k, v) :: rest
    | .gt => (k', v') :: insertEntry k v rest

theorem mem_of_mem_insertEntry {k : κ} {v : β} {e : κ × β} {l : List (κ × β)}
    (h : e ∈ insertEntry k v l) : e = (k, v) ∨ e ∈ l := by
  induction l with
  | nil => simpa [insertEntry] using h
  | cons hd tl ih =>
    obtain ⟨k', v'⟩ := hd
    unfold insertEntry at h
    split at h
    · simpa using h
    · rcases List.mem_cons.1 h with h | h
      · exact .inl h
      · exact .inr (List.mem_cons_of_mem _ h)
    · rcases List.mem_cons.1 h with h | h
      · exact .inr (h ▸ List.mem_cons_self)
      · exact (ih h).imp_right (List.mem_cons_of_mem _)

theorem insertEntry_sorted [Std.TransOrd κ] (k : κ) (v : β) {l : List (κ × β)}
    (h : l.Pairwise fun a b => compare a.1 b.1 = .lt) :
    (insertEntry k v l).Pairwise fun a b => compare a.1 b.1 = .lt := by
  induction l with
  | nil => simp [insertEntry]
  | cons hd tl ih =>
    obtain ⟨k', v'⟩ := hd
    have hk : ∀ e ∈ tl, compare k' e.1 = .lt := fun e he => List.rel_of_pairwise_cons h he
    unfold insertEntry
    split
    · rename_i hlt
      refine List.pairwise_cons.2 ⟨fun e he => ?_, h⟩
      rcases List.mem_cons.1 he with rfl | he
      · exact hlt
      · exact Std.TransCmp.lt_trans hlt (hk e he)
    · rename_i heq
      exact List.pairwise_cons.2
        ⟨fun e he => Std.TransCmp.lt_of_eq_of_lt heq (hk e he), h.of_cons⟩
    · rename_i hgt
      refine List.pairwise_cons.2 ⟨fun e he => ?_, ih h.of_cons⟩
      rcases mem_of_mem_insertEntry he with rfl | he
      · exact Std.OrientedCmp.lt_of_gt hgt
      · exact hk e he

variable [Std.TransOrd κ]

def insert (m : Keyed κ β) (k : κ) (v : β) : Keyed κ β :=
  ⟨insertEntry k v m.toList, insertEntry_sorted k v m.sorted⟩

/-- Gives a key the value made from the one it has. -/
def upsert (m : Keyed κ β) (k : κ) (f : Option β → β) : Keyed κ β := m.insert k (f (m.get? k))

/-- The map of a list of entries, of which later ones replace earlier ones. -/
def ofList (entries : List (κ × β)) : Keyed κ β :=
  entries.foldl (fun m entry => m.insert entry.1 entry.2) empty

def erase (m : Keyed κ β) (k : κ) : Keyed κ β :=
  ⟨m.toList.filter fun entry => compare k entry.1 != .eq, m.sorted.filter _⟩

end Keyed

end RouteServer
