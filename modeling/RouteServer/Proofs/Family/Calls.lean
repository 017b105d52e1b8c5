import RouteServer.Proofs.Family

/-! # Families declared call by call

A declaration takes calls one after the other. What it has become is told by the pairs that the accepted calls have
recorded: they are a set, the next call is refused for what is in it, and a call that is refused changes nothing, not
even by an empty slot. Once it is finished, the families are that set.
-/

namespace RouteServer

/-! ## Families that are a set of pairs -/

/-- The families are those of the pairs, and are listed by address family and then in the order of the pairs. -/
structure Families.Lists (f : Families) (pairs : List Family) : Prop where
  listed : f.toList = Afi.all.flatMap fun afi => pairs.filter (·.afi = afi)
  distinct : f.toList.Nodup
  size : f.size = pairs.length
  contains : ∀ p, f.contains p = true ↔ p ∈ pairs
  isEmpty : f.isEmpty = true ↔ pairs = []

theorem Families.lists_ofList {pairs : List Family} (h : Declarable pairs) : (ofList pairs).Lists pairs where
  listed := toList_ofList pairs
  distinct := (declarable_toList h).distinct
  size := by
    have hsame : (ofList pairs).toList.Perm pairs := by
      rw [List.perm_ext_iff_of_nodup (declarable_toList h).distinct h.distinct]
      exact fun p => mem_toList.trans contains_ofList
    rw [size_eq, hsame.length_eq]
  contains _ := contains_ofList
  isEmpty := by
    rw [isEmpty_iff, List.eq_nil_iff_forall_not_mem, List.eq_nil_iff_forall_not_mem]
    exact forall_congr' fun p => not_congr (mem_toList.trans contains_ofList)

namespace FamilyDeclaration

/-! ## Calls -/

/-- What is asked of a declaration: to record one pair, or the whole table. -/
inductive Call where
  | one (family : Family)
  | all
deriving DecidableEq, Repr

namespace Call

def declaring : Call → Declaring Unit
  | one family => add family
  | all => addAll

/-- The pairs that a call records if it is accepted. -/
def pairs : Call → List Family
  | one family => [family]
  | all => Family.implemented

end Call

/-- The answer to a call, and the declaration that the call leaves. -/
def call (d : FamilyDeclaration) (c : Call) : Except Family.DeclarationError Unit × FamilyDeclaration :=
  c.declaring.run.run d

/-- The answers to calls that are made one after the other, and the declaration behind the last one. -/
def course (d : FamilyDeclaration) :
    List Call → List (Call × Except Family.DeclarationError Unit) × FamilyDeclaration
  | [] => ([], d)
  | c :: rest =>
    let (answer, next) := d.call c
    let (answers, last) := next.course rest
    ((c, answer) :: answers, last)

/-- The pairs that the accepted calls have recorded, in the order of the calls. -/
def recorded (answers : List (Call × Except Family.DeclarationError Unit)) : List Family :=
  answers.flatMap fun (c, answer) =>
    match answer with
    | .ok () => c.pairs
    | .error _ => []

/-! ## What the recorded pairs decide -/

/-- A declaration is the set of the pairs: they decide how each call is answered, none of its slots is empty, and what
it is finished into are its slots and no others. -/
structure Holds (d : FamilyDeclaration) (pairs : List Family) : Prop where
  one : ∀ p, (d.call (.one p)).1 =
    if p.isImplemented = false then .error (.unimplemented p)
    else if p ∈ pairs then .error (.duplicate p)
    else .ok ()
  all : (d.call .all).1 = match Family.implemented.find? (· ∈ pairs) with
    | some p => .error (.duplicate p)
    | none => .ok ()
  all_accepted : (d.call .all).1 = .ok () ↔ pairs = []
  refused : ∀ c e, (d.call c).1 = .error e → (d.call c).2 = d
  contains : ∀ p, d.contains p = true ↔ p ∈ pairs
  filled : ∀ slot ∈ d.slots.toList, slot.2 ≠ []
  kept : d.finish.slots = d.slots
  finished : d.finish.Lists pairs

open Families

variable {pairs : List Family}

/-! ### The two calls -/

theorem call_one_ofList (pairs : List Family) (p : Family) : (ofList pairs).call (.one p) =
    if p.isImplemented = false then (.error (.unimplemented p), ofList pairs)
    else if p ∈ pairs then (.error (.duplicate p), ofList pairs)
    else (.ok (), ofList (pairs ++ [p])) := by
  rw [call, Call.declaring, run_add, ofList_append]
  simp only [contains_ofList]
  rfl

theorem call_all_ofList (pairs : List Family) : (ofList pairs).call .all =
    match Family.implemented.find? (· ∈ pairs) with
    | some p => (.error (.duplicate p), ofList pairs)
    | none => (.ok (), ofList (pairs ++ Family.implemented)) := by
  have hcontains : (ofList pairs).contains = (decide <| · ∈ pairs) := by
    funext p
    rw [Bool.eq_iff_iff, contains_ofList, decide_eq_true_eq]
  rw [call, Call.declaring, run_addAll, ofList_append, hcontains]
  rfl

theorem find?_implemented_eq_none_iff (h : Declarable pairs) :
    Family.implemented.find? (· ∈ pairs) = none ↔ pairs = [] := by
  rw [List.find?_eq_none, List.eq_nil_iff_forall_not_mem]
  simp only [decide_eq_true_eq]
  exact ⟨fun hfree p hp => hfree p (Family.mem_implemented.mpr (h.implemented p hp)) hp,
    fun hnone p _ => hnone p⟩

/-- A call is refused and leaves the declaration, or it records its pairs, which may then be declared. -/
theorem call_cases (h : Declarable pairs) (c : Call) :
    (∃ e, (ofList pairs).call c = (.error e, ofList pairs)) ∨
      (ofList pairs).call c = (.ok (), ofList (pairs ++ c.pairs)) ∧ Declarable (pairs ++ c.pairs) := by
  rw [declarable_append h]
  cases c with
  | one p =>
    rw [call_one_ofList]
    split
    · exact .inl ⟨_, rfl⟩
    · rename_i himplemented
      split
      · exact .inl ⟨_, rfl⟩
      · rename_i hnew
        exact .inr ⟨rfl, by simpa [Call.pairs, hnew] using himplemented⟩
  | all =>
    rw [call_all_ofList]
    cases hfind : Family.implemented.find? (· ∈ pairs) with
    | some p => exact .inl ⟨_, rfl⟩
    | none =>
      obtain rfl := (find?_implemented_eq_none_iff h).mp hfind
      exact .inr ⟨rfl, fun p hp => Family.mem_implemented.mp hp, Family.implemented_nodup, by simp⟩

theorem holds_ofList (h : Declarable pairs) : (ofList pairs).Holds pairs where
  one p := by
    rw [call_one_ofList]
    split
    · rfl
    · split <;> rfl
  all := by
    rw [call_all_ofList]
    split <;> rfl
  all_accepted := by
    rw [call_all_ofList, ← find?_implemented_eq_none_iff h]
    cases Family.implemented.find? (· ∈ pairs) <;> simp
  refused c e hrefused := by
    rcases call_cases h c with ⟨e', hcall⟩ | ⟨hcall, -⟩
    · rw [hcall]
    · rw [hcall] at hrefused
      cases hrefused
  contains _ := contains_ofList
  filled := slots_finish (filled_ofList pairs) ▸ (ofList pairs).finish.filled
  kept := slots_finish (filled_ofList pairs)
  finished := lists_ofList h

/-! ## Any number of calls -/

theorem course_ofList (h : Declarable pairs) (calls : List Call) :
    ((ofList pairs).course calls).2 = ofList (pairs ++ recorded ((ofList pairs).course calls).1) ∧
      Declarable (pairs ++ recorded ((ofList pairs).course calls).1) := by
  induction calls generalizing pairs with
  | nil => simpa [course, recorded] using h
  | cons c rest ih =>
    rw [course]
    rcases call_cases h c with ⟨e, hcall⟩ | ⟨hcall, hmore⟩
    · rw [hcall]
      exact ih h
    · have hrest := ih hmore
      rw [List.append_assoc] at hrest
      rw [hcall]
      exact hrest

/-- Behind any calls on a new declaration, the declaration is the set of what the accepted ones recorded. -/
theorem set_of_recorded_pairs (calls : List Call) :
    (course {} calls).2.Holds (recorded (course {} calls).1) := by
  obtain ⟨hlast, hpairs⟩ := course_ofList .nil calls
  have hholds := holds_ofList hpairs
  rw [← hlast] at hholds
  exact hholds

end FamilyDeclaration

end RouteServer
