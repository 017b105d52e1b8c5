import RouteServer.Proofs.Config.Accepted
import RouteServer.Proofs.Config.Scanning

/-! # What every configuration has

A configuration that is read from a text has one neighbor at most for an address. Its families are
declarable, and its descriptions may stand between quotes.
-/

namespace RouteServer

/-- Families that some declarations leave. -/
def Families.IsDeclared (f : Families) : Prop := ∃ pairs, Declarable pairs ∧ f = ofList pairs

theorem Families.isDeclared_empty : IsDeclared {} := ⟨[], .nil, rfl⟩

/-- A neighbor as a block can declare it. -/
structure Neighbor.IsDeclared (n : Neighbor) : Prop where
  families : n.families.IsDeclared
  description : ∀ text, n.description = some text → Config.Plain text.toList

namespace Config.Grammar

variable {c : Configuration} {file : File} {n : Neighbor}

theorem FamilyBody.Declares.isDeclared {body : FamilyBody} {f : Families} (h : body.Declares f) :
    f.IsDeclared := ⟨body.pairs, ⟨h.implemented, h.distinct⟩, h.eq_ofList⟩

theorem FamilySource.Means.isDeclared {blocks : List (String × Families)} {source : FamilySource}
    {f : Families} (hblocks : ∀ entry ∈ blocks, Families.IsDeclared entry.2)
    (h : source.Means blocks f) : f.IsDeclared := by
  cases source with
  | reference name =>
    obtain ⟨before, after, rfl, -⟩ := List.lookup_eq_some_iff.mp h
    exact hblocks (name, f) (List.mem_append_right before List.mem_cons_self)
  | inline body => exact FamilyBody.Declares.isDeclared h

theorem NeighborBody.Declares.description_mem {blocks : List (String × Families)} {address : Value}
    {body : NeighborBody} (h : body.Declares blocks address n) {text : String}
    (htext : n.description = some text) : ∃ v : Value, v.text = text ∧ v.kind ∈ body.kinds := by
  obtain ⟨slots, hsets, hmake⟩ := h.sets
  have hvalue : body.value? .description = some text :=
    (hsets.values .description).trans (hmake.description.trans htext)
  obtain ⟨x, hx, hfor⟩ := List.exists_of_findSome?_eq_some hvalue
  cases x with
  | setting s hs v =>
    simp only [NeighborStatement.valueFor?] at hfor
    split at hfor
    · refine ⟨v, Option.some.inj hfor, List.mem_flatMap.mpr ⟨_, hx, ?_⟩⟩
      simp [NeighborStatement.kinds]
    · cases hfor
  | _ => cases hfor

theorem plain_text_of_kind {v : Value} (h : v.kind.HasPlainText) : Plain v.text.toList := by
  cases v <;> exact h

theorem NeighborBody.Declares.isDeclared {address : Value} {body : NeighborBody}
    (h : body.Declares c.blocks address n) (hblocks : ∀ entry ∈ c.blocks, Families.IsDeclared entry.2)
    (hplain : ∀ kind ∈ body.kinds, kind.HasPlainText) : n.IsDeclared := by
  constructor
  · obtain ⟨slots, hsets, hmake⟩ := h.sets
    rw [← hmake.families]
    cases hfamilies : slots.families with
    | none => exact Families.isDeclared_empty
    | some f =>
      have hrel := hsets.families
      rw [hfamilies] at hrel
      generalize body.source? = source at hrel
      cases hrel with
      | some hmeans => exact hmeans.isDeclared hblocks
  · intro text htext
    obtain ⟨v, rfl, hmem⟩ := h.description_mem htext
    exact plain_text_of_kind (hplain _ hmem)

theorem File.Declares.blocks_declared (h : file.Declares c) :
    ∀ entry ∈ c.blocks, Families.IsDeclared entry.2 := by
  induction h with
  | nil => rintro entry (_ | _)
  | separator file c hfile ih => exact ih
  | block file c hfile name body families hname hbody ih =>
    intro entry hentry
    rcases List.mem_append.mp hentry with hentry | hentry
    · exact ih entry hentry
    · obtain rfl := List.mem_singleton.mp hentry
      exact hbody.isDeclared
  | neighbor file c hfile address body n hbody haddress ih => exact ih

theorem File.Declares.neighbors_declared (h : file.Declares c)
    (hplain : ∀ kind ∈ file.kinds, kind.HasPlainText) : ∀ n ∈ c.neighbors, n.IsDeclared := by
  induction h with
  | nil => rintro n (_ | _)
  | separator file c hfile ih =>
    rw [kinds_concat] at hplain
    exact ih fun kind hkind => hplain kind (List.mem_append_left _ hkind)
  | block file c hfile name body families hname hbody ih =>
    rw [kinds_concat] at hplain
    exact ih fun kind hkind => hplain kind (List.mem_append_left _ hkind)
  | neighbor file c hfile address body n hbody haddress ih =>
    rw [kinds_concat] at hplain
    intro m hm
    rcases List.mem_append.mp hm with hm | hm
    · exact ih (fun kind hkind => hplain kind (List.mem_append_left _ hkind)) m hm
    · obtain rfl := List.mem_singleton.mp hm
      refine hbody.isDeclared hfile.blocks_declared fun kind hkind => hplain kind ?_
      simp [Item.kinds, hkind]

theorem File.Declares.addresses_distinct (h : file.Declares c) :
    c.neighbors.Pairwise fun a b => a.peerAddress ≠ b.peerAddress := by
  induction h with
  | nil => exact .nil
  | separator file c hfile ih => exact ih
  | block file c hfile name body families hname hbody ih => exact ih
  | neighbor file c hfile address body n hbody haddress ih =>
    refine List.pairwise_append.mpr ⟨ih, List.pairwise_singleton .., ?_⟩
    intro a ha b hb
    obtain rfl := List.mem_singleton.mp hb
    exact haddress a ha

end Config.Grammar

open Config in
theorem Configuration.exists_file_of_parse {text : String} {c : Configuration}
    (h : Configuration.parse text = .ok c) : ∃ tokens, ∃ file : Grammar.File,
      tokenize text = .ok tokens ∧ tokens.map (·.kind) = file.kinds ∧ file.Declares c := by
  unfold Configuration.parse at h
  split at h
  · cases h
  · rename_i tokens htokens
    obtain ⟨file, hkinds, hfile⟩ := Grammar.exists_file_of_ofTokens h
    exact ⟨tokens, file, htokens, hkinds, hfile⟩

/-- What is true of a configuration that a text declares. -/
structure Configuration.IsDeclared (c : Configuration) : Prop where
  neighbors : ∀ n ∈ c.neighbors, n.IsDeclared
  addresses : c.neighbors.Pairwise fun a b => a.peerAddress ≠ b.peerAddress

open Config in
theorem Configuration.isDeclared_of_parse {text : String} {c : Configuration}
    (h : Configuration.parse text = .ok c) : c.IsDeclared := by
  obtain ⟨tokens, file, htokens, hkinds, hfile⟩ := exists_file_of_parse h
  refine ⟨hfile.neighbors_declared ?_, hfile.addresses_distinct⟩
  intro kind hkind
  rw [← hkinds] at hkind
  obtain ⟨token, hmem, rfl⟩ := List.mem_map.mp hkind
  exact tokenize_plain htokens token hmem

end RouteServer
