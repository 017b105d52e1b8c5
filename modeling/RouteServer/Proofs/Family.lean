import Mathlib.Data.List.Basic
import RouteServer.Family
import RouteServer.Proofs.Keyed

/-! # Declared families as a list of pairs

What a sequence of declarations leaves is determined by the list of the declared pairs: a slot is opened for the first
pair of its address family, so that no slot is ever left empty. One more pair is accepted exactly if the longer list
still has implemented pairs only and none of them twice.
-/

namespace RouteServer

theorem Afi.mem_all (afi : Afi) : afi ∈ all := by cases afi <;> decide

theorem Afi.all_increasing : all.Pairwise fun a b => compare a b = .lt := by decide

instance : Std.LawfulEqOrd Afi where
  eq_of_compare {a b} h := by
    have hrank : Afi.all.idxOf a = Afi.all.idxOf b := Nat.compare_eq_eq.mp h
    exact (List.idxOf_inj (Afi.mem_all a)).mp hrank

theorem Safi.mem_all (safi : Safi) : safi ∈ all := by cases safi <;> decide

theorem Afi.parse_eq_ok_iff {word : String} {afi : Afi} :
    parse word = .ok afi ↔ afi.render = Text.lowercase word := by
  have hfind : all.find? (fun a => a.render = Text.lowercase word) = some afi ↔ afi.render = Text.lowercase word :=
    (Lists.find?_eq_some_iff render (by decide)).trans (and_iff_right afi.mem_all)
  rw [← hfind, parse]
  cases all.find? fun a => a.render = Text.lowercase word <;> simp

theorem Safi.parse_eq_ok_iff {word : String} {safi : Safi} :
    parse word = .ok safi ↔ safi.render = Text.lowercase word := by
  have hfind : all.find? (fun s => s.render = Text.lowercase word) = some safi ↔
      safi.render = Text.lowercase word :=
    (Lists.find?_eq_some_iff render (by decide)).trans (and_iff_right safi.mem_all)
  rw [← hfind, parse]
  cases all.find? fun s => s.render = Text.lowercase word <;> simp

theorem Family.mem_implemented {p : Family} : p ∈ implemented ↔ p.isImplemented = true := by
  obtain ⟨afi, safi⟩ := p
  cases afi <;> cases safi <;> decide

theorem Family.implemented_nodup : implemented.Nodup := by decide

theorem Family.mem_all (p : Family) : p ∈ all := by
  obtain ⟨afi, safi⟩ := p
  cases afi <;> cases safi <;> decide

instance : Std.LawfulEqOrd Family where
  eq_of_compare {p q} h := by
    have hrank : Family.all.idxOf p = Family.all.idxOf q := Nat.compare_eq_eq.mp h
    exact (List.idxOf_inj (Family.mem_all p)).mp hrank

theorem Family.renderWith_inj {sign : String} {p q : Family} : p.renderWith sign = q.renderWith sign ↔ p = q := by
  -- The sign is arbitrary: the first four characters tell the address families apart before it.
  have hbegin : ∀ r : Family, (r.renderWith sign).toList.take 4 = r.afi.render.toList.take 4 := by
    rintro ⟨afi, safi⟩
    simp only [renderWith, String.toList_append, List.append_assoc]
    exact List.take_append_of_le_length (by cases afi <;> decide)
  have hafis : ∀ a b : Afi, a.render.toList.take 4 = b.render.toList.take 4 → a = b := by
    intro a b
    cases a <;> cases b <;> decide
  have hsafis : ∀ a b : Safi, a.render = b.render → a = b := by
    intro a b
    cases a <;> cases b <;> decide
  refine ⟨fun h => ?_, congrArg (renderWith sign)⟩
  obtain ⟨afi, safi⟩ := p
  obtain ⟨afi', safi'⟩ := q
  obtain rfl := hafis afi afi' (by rw [← hbegin ⟨afi, safi⟩, h, hbegin])
  have hrest : safi.render = safi'.render := by simpa [renderWith, ← String.toList_inj] using h
  rw [hsafis safi safi' hrest]

theorem Family.render_inj {p q : Family} : p.render = q.render ↔ p = q := renderWith_inj

/-! ## The slots of a declaration -/

namespace FamilyDeclaration

variable (d : FamilyDeclaration) (p : Family)

theorem ext_slots {d d' : FamilyDeclaration} (h : ∀ afi, d.slots.get? afi = d'.slots.get? afi) : d = d' := by
  obtain ⟨slots⟩ := d
  exact congrArg mk (Keyed.ext_get? h)

/-- What stands in the slot of an address family. -/
def safis (afi : Afi) : List Safi := (d.slots.get? afi).getD []

theorem contains_iff {d : FamilyDeclaration} {p : Family} : d.contains p = true ↔ p.safi ∈ d.safis p.afi := by
  rw [contains, safis]
  cases d.slots.get? p.afi <;> simp

theorem get?_record (afi : Afi) : (d.record p).slots.get? afi =
    if afi = p.afi then some (d.safis afi ++ [p.safi]) else d.slots.get? afi := by
  rw [record, Keyed.get?_upsert]
  by_cases h : afi = p.afi
  · subst h
    rw [if_pos rfl, if_pos rfl, safis]
  · rw [if_neg h, if_neg h]

theorem safis_record (afi : Afi) :
    (d.record p).safis afi = d.safis afi ++ if p.afi = afi then [p.safi] else [] := by
  rw [safis, get?_record]
  by_cases h : afi = p.afi
  · rw [if_pos h, if_pos h.symm]
    rfl
  · rw [if_neg h, if_neg (Ne.symm h), List.append_nil]
    rfl

theorem safis_foldl_record (pairs : List Family) (afi : Afi) :
    (pairs.foldl record d).safis afi =
      d.safis afi ++ (pairs.filter (·.afi = afi)).map (·.safi) := by
  induction pairs generalizing d with
  | nil => simp
  | cons p rest ih =>
    rw [List.foldl_cons, ih, safis_record, List.filter_cons]
    by_cases h : p.afi = afi <;> simp [h]

/-- No slot is empty. -/
def Filled : Prop := ∀ afi, d.slots.get? afi ≠ some []

variable {d p}

theorem Filled.record (h : d.Filled) (p : Family) : (d.record p).Filled := by
  intro afi
  rw [get?_record]
  split
  · simp
  · exact h afi

theorem Filled.foldl_record (h : d.Filled) (pairs : List Family) : (pairs.foldl FamilyDeclaration.record d).Filled := by
  induction pairs generalizing d with
  | nil => exact h
  | cons p rest ih => exact ih (h.record p)

/-! ## Declarations -/

theorem openSlot_of_contains (h : d.contains p = true) : d.openSlot p.afi = d := by
  refine ext_slots fun afi => ?_
  rw [openSlot, Keyed.get?_upsert]
  rw [contains] at h
  by_cases hafi : afi = p.afi
  · subst hafi
    obtain ⟨known, hknown⟩ := Option.isSome_iff_exists.mp (Option.isSome_of_any h)
    rw [if_pos rfl, hknown, Option.getD_some]
  · rw [if_neg hafi]

theorem safis_openSlot (d : FamilyDeclaration) (afi afi' : Afi) : (d.openSlot afi).safis afi' = d.safis afi' := by
  rw [safis, openSlot, Keyed.get?_upsert]
  by_cases h : afi' = afi
  · subst h
    rw [if_pos rfl, Option.getD_some, safis]
  · rw [if_neg h, safis]

theorem contains_openSlot (d : FamilyDeclaration) (p : Family) (afi : Afi) :
    (d.openSlot afi).contains p = d.contains p := by
  rw [Bool.eq_iff_iff, contains_iff, contains_iff, safis_openSlot]

theorem record_openSlot (d : FamilyDeclaration) (p : Family) : (d.openSlot p.afi).record p = d.record p := by
  refine ext_slots fun afi => ?_
  rw [get?_record, get?_record, safis_openSlot]
  by_cases h : afi = p.afi
  · rw [if_pos h, if_pos h]
  · rw [if_neg h, if_neg h, openSlot, Keyed.get?_upsert, if_neg h]

section Calls

variable (d : FamilyDeclaration) (p : Family)

/-- A slot that is opened for a family is kept only if the family is recorded in it: where the family is a duplicate,
the slot was there before. -/
theorem run_add : (add p).run.run d =
    if p.isImplemented = false then (.error (.unimplemented p), d)
    else if d.contains p = true then (.error (.duplicate p), d)
    else (.ok (), d.record p) := by
  unfold add
  cases p.isImplemented with
  | false => rfl
  | true =>
    change (if (d.openSlot p.afi).contains p = true then throw (.duplicate p)
      else modify (record · p) : Declaring Unit).run.run (d.openSlot p.afi) = _
    rw [contains_openSlot]
    cases h : d.contains p with
    | true =>
      rw [openSlot_of_contains h]
      rfl
    | false =>
      rw [← record_openSlot]
      rfl

theorem run_forM_record (pairs : List Family) :
    (pairs.forM fun p => modify (record · p) : Declaring Unit).run.run d =
      (.ok (), pairs.foldl record d) := by
  induction pairs generalizing d with
  | nil => rfl
  | cons p rest ih => exact ih (d.record p)

theorem run_addAll : addAll.run.run d = match Family.implemented.find? d.contains with
    | some p => (.error (.duplicate p), d)
    | none => (.ok (), Family.implemented.foldl record d) := by
  change (match Family.implemented.find? d.contains with
    | some p => throw (.duplicate p)
    | none => Family.implemented.forM fun p => modify (record · p) : Declaring Unit).run.run d = _
  cases Family.implemented.find? d.contains with
  | some p => rfl
  | none => exact run_forM_record d Family.implemented

end Calls

theorem declare_eq_ok_iff {next : FamilyDeclaration} :
    d.declare p = .ok next ↔ p.isImplemented = true ∧ d.contains p = false ∧ d.record p = next := by
  rw [declare, after, run_add]
  cases p.isImplemented <;> cases d.contains p <;> simp

theorem declareAll_eq_ok_iff {next : FamilyDeclaration} :
    d.declareAll = .ok next ↔
      (∀ p ∈ Family.implemented, d.contains p = false) ∧ Family.implemented.foldl record d = next := by
  rw [declareAll, after, run_addAll]
  cases hfind : Family.implemented.find? d.contains with
  | none =>
    have hnone : ∀ p ∈ Family.implemented, d.contains p = false := by
      simpa using List.find?_eq_none.mp hfind
    simp only [Except.ok.injEq]
    exact ⟨fun h => ⟨hnone, h⟩, fun h => h.2⟩
  | some p =>
    have hmem := List.mem_of_find?_eq_some hfind
    have hcontains := List.find?_some hfind
    constructor
    · intro h
      cases h
    · rintro ⟨hnone, -⟩
      rw [hnone p hmem] at hcontains
      cases hcontains

/-! ## The pairs of a declaration -/

/-- The declaration in which the pairs of a list have been recorded, in their order. -/
def ofList (pairs : List Family) : FamilyDeclaration := pairs.foldl record {}

theorem ofList_append (a b : List Family) : ofList (a ++ b) = b.foldl record (ofList a) :=
  List.foldl_append ..

theorem filled_ofList (pairs : List Family) : (ofList pairs).Filled :=
  Filled.foldl_record (fun _ h => Option.some_ne_none _ h.symm) pairs

theorem safis_ofList (pairs : List Family) (afi : Afi) :
    (ofList pairs).safis afi = (pairs.filter (·.afi = afi)).map (·.safi) := safis_foldl_record {} pairs afi

@[simp]
theorem contains_ofList {pairs : List Family} : (ofList pairs).contains p = true ↔ p ∈ pairs := by
  rw [contains_iff, safis_ofList]
  simp only [List.mem_map, List.mem_filter, decide_eq_true_eq]
  constructor
  · rintro ⟨q, ⟨hmem, hafi⟩, hsafi⟩
    cases p
    cases q
    simp_all
  · intro hmem
    exact ⟨p, ⟨hmem, rfl⟩, rfl⟩

end FamilyDeclaration

namespace Families

/-- Pairs that may be declared one after the other: all are implemented, and none comes twice. -/
structure Declarable (pairs : List Family) : Prop where
  implemented : ∀ p ∈ pairs, p.isImplemented = true
  distinct : pairs.Nodup

theorem Declarable.nil : Declarable [] := ⟨by simp, .nil⟩

theorem Declarable.of_append {a b : List Family} (h : Declarable (a ++ b)) : Declarable a where
  implemented p hp := h.implemented p (List.mem_append_left b hp)
  distinct := (List.nodup_append.mp h.distinct).1

theorem declarable_append {a b : List Family} (ha : Declarable a) : Declarable (a ++ b) ↔
    (∀ p ∈ b, p.isImplemented = true) ∧ b.Nodup ∧ ∀ p ∈ b, p ∉ a := by
  constructor
  · intro h
    obtain ⟨-, hnd, hdisjoint⟩ := List.nodup_append.mp h.distinct
    exact ⟨fun p hp => h.implemented p (List.mem_append_right a hp), hnd,
      fun p hp hpa => hdisjoint p hpa p hp rfl⟩
  · rintro ⟨himplemented, hnd, hdisjoint⟩
    constructor
    · intro p hp
      rcases List.mem_append.mp hp with hp | hp
      · exact ha.implemented p hp
      · exact himplemented p hp
    · refine List.nodup_append.mpr ⟨ha.distinct, hnd, ?_⟩
      rintro p hpa q hqb rfl
      exact hdisjoint p hqb hpa

end Families

namespace FamilyDeclaration

open Families

variable {pairs : List Family} {next : FamilyDeclaration}

theorem declare_ofList_iff (h : Declarable pairs) (p : Family) :
    (ofList pairs).declare p = .ok next ↔ Declarable (pairs ++ [p]) ∧ ofList (pairs ++ [p]) = next := by
  rw [declare_eq_ok_iff, declarable_append h, ofList_append, ← Bool.not_eq_true, contains_ofList]
  simp [and_assoc]

theorem declareAll_ofList_iff (h : Declarable pairs) :
    (ofList pairs).declareAll = .ok next ↔ Declarable (pairs ++ Family.implemented) ∧
      ofList (pairs ++ Family.implemented) = next := by
  have hcontains : ∀ p, (ofList pairs).contains p = false ↔ p ∉ pairs := by
    intro p
    rw [← Bool.not_eq_true, contains_ofList]
  rw [declareAll_eq_ok_iff, declarable_append h, ofList_append]
  simp [hcontains, Family.mem_implemented, Family.implemented_nodup]

/-! ## Finished declarations -/

theorem get?_finish (d : FamilyDeclaration) (afi : Afi) :
    d.finish.slots.get? afi = (d.slots.get? afi).filter fun safis => !safis.isEmpty := Keyed.get?_filter ..

theorem slots_finish {d : FamilyDeclaration} (h : d.Filled) : d.finish.slots = d.slots := by
  refine Keyed.ext_get? fun afi => ?_
  rw [get?_finish]
  rcases hslot : d.slots.get? afi with _ | _ | _
  · rfl
  · exact absurd hslot (h afi)
  · rfl

theorem safis_finish (d : FamilyDeclaration) (afi : Afi) : d.finish.safis afi = d.safis afi := by
  rw [Families.safis, get?_finish, safis]
  rcases d.slots.get? afi with _ | _ | _ <;> rfl

end FamilyDeclaration

/-! ## Declared families as a table -/

namespace Families

variable {f : Families}

theorem get?_slots (f : Families) (afi : Afi) :
    f.slots.get? afi = if f.safis afi = [] then none else some (f.safis afi) := by
  rw [safis]
  cases hslot : f.slots.get? afi with
  | none => rfl
  | some safis => exact (if_neg (f.filled _ (Keyed.get?_eq_some_iff.mp hslot))).symm

theorem ext_safis {f g : Families} (h : ∀ afi, f.safis afi = g.safis afi) : f = g := by
  have hslots : f.slots = g.slots := Keyed.ext_get? fun afi => by rw [get?_slots, get?_slots, h]
  cases f
  cases g
  congr

theorem toList_eq (f : Families) : f.toList = Afi.all.flatMap fun afi => (f.safis afi).map (Family.mk afi) := by
  rw [toList, Keyed.toList_eq_filterMap Afi.all_increasing Afi.mem_all, List.filterMap_eq_flatMap_toList,
    List.flatMap_assoc]
  congr 1
  funext afi
  rw [safis]
  cases f.slots.get? afi with
  | none => rfl
  | some safis => exact List.flatMap_singleton ..

theorem mem_toList {p : Family} : p ∈ f.toList ↔ f.contains p = true := by
  obtain ⟨afi, safi⟩ := p
  rw [contains, decide_eq_true_eq, toList_eq]
  simp [Afi.mem_all]

theorem size_eq (f : Families) : f.size = f.toList.length := by
  simp [size, toList, List.length_flatMap, List.sum_eq_foldr, List.foldr_map]

theorem isEmpty_iff : f.isEmpty = true ↔ f.toList = [] := by
  rw [isEmpty, Keyed.isEmpty, List.isEmpty_iff, toList, List.flatMap_eq_nil_iff]
  constructor
  · intro h
    simp [h]
  · intro h
    rw [List.eq_nil_iff_forall_not_mem]
    exact fun slot hslot => f.filled slot hslot (List.map_eq_nil_iff.mp (h slot hslot))

/-- The families of a list of pairs, in their order. -/
def ofList (pairs : List Family) : Families := (FamilyDeclaration.ofList pairs).finish

variable {pairs : List Family}

theorem safis_ofList (pairs : List Family) (afi : Afi) :
    (ofList pairs).safis afi = (pairs.filter (·.afi = afi)).map (·.safi) :=
  (FamilyDeclaration.safis_finish _ afi).trans (FamilyDeclaration.safis_ofList pairs afi)

@[simp]
theorem contains_ofList {p : Family} : (ofList pairs).contains p = true ↔ p ∈ pairs := by
  rw [contains, decide_eq_true_eq, ofList, FamilyDeclaration.safis_finish, ← FamilyDeclaration.contains_iff,
    FamilyDeclaration.contains_ofList]

theorem toList_ofList (pairs : List Family) :
    (ofList pairs).toList = Afi.all.flatMap fun afi => pairs.filter (·.afi = afi) := by
  rw [toList_eq]
  congr 1
  funext afi
  rw [safis_ofList, List.map_map]
  refine (List.map_congr_left fun p hp => ?_).trans (List.map_id _)
  rw [Function.comp_apply, ← of_decide_eq_true (List.mem_filter.mp hp).2]
  rfl

theorem filter_map_mk (safis : List Safi) (afi afi' : Afi) :
    (safis.map (Family.mk afi')).filter (·.afi = afi) =
      if afi' = afi then safis.map (Family.mk afi') else [] := by
  split
  · rename_i h
    rw [List.filter_eq_self]
    intro p hp
    obtain ⟨safi, -, rfl⟩ := List.mem_map.mp hp
    exact decide_eq_true h
  · rename_i h
    rw [List.filter_eq_nil_iff]
    intro p hp
    obtain ⟨safi, -, rfl⟩ := List.mem_map.mp hp
    exact fun hafi => h (of_decide_eq_true hafi)

theorem ofList_toList (f : Families) : ofList f.toList = f := by
  apply ext_safis
  intro afi
  rw [safis_ofList]
  simp only [toList_eq, Afi.all, List.flatMap_cons, List.flatMap_nil, List.filter_append, filter_map_mk]
  cases afi <;> simp [Function.comp_def]

theorem toList_inj {f g : Families} : f.toList = g.toList ↔ f = g := by
  refine ⟨fun h => ?_, congrArg toList⟩
  rw [← ofList_toList f, h, ofList_toList]

theorem safis_nodup (h : Declarable pairs) (afi : Afi) : ((ofList pairs).safis afi).Nodup := by
  rw [safis_ofList, List.nodup_iff_pairwise_ne, List.pairwise_map]
  refine (h.distinct.filter (·.afi = afi)).imp_of_mem ?_
  intro p q hp hq hne hsafi
  have hafi : p.afi = q.afi :=
    (of_decide_eq_true (List.mem_filter.mp hp).2).trans (of_decide_eq_true (List.mem_filter.mp hq).2).symm
  cases p
  cases q
  exact hne (congr (congrArg Family.mk hafi) hsafi)

theorem declarable_toList (h : Declarable pairs) : Declarable (ofList pairs).toList := by
  constructor
  · intro p hp
    exact h.implemented p (contains_ofList.mp (mem_toList.mp hp))
  · rw [toList_eq, List.nodup_iff_pairwise_ne, List.pairwise_flatMap]
    constructor
    · intro afi _
      rw [List.pairwise_map]
      refine (safis_nodup h afi).imp ?_
      rintro safi safi' hne ⟨⟩
      exact hne rfl
    · have hafi : Afi.all.Pairwise (· ≠ ·) := by decide
      refine hafi.imp ?_
      rintro afi afi' hne p hp q hq rfl
      obtain ⟨_, -, rfl⟩ := List.mem_map.mp hp
      obtain ⟨_, -, heq⟩ := List.mem_map.mp hq
      exact hne (congrArg Family.afi heq).symm

end Families

end RouteServer
