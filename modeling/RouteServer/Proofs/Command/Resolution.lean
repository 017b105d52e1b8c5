import Mathlib.Data.List.Nodup
import Mathlib.Data.List.Perm.Basic
import RouteServer.Command.Registry

/-! # Resolving command lines

Commands are registered one after the other, and a verb that is taken is refused. So no two commands of a
registry have the same words, and at most one verb is the longest that a line begins with: the order in which the
commands were registered makes no difference.
-/

namespace RouteServer.Command

variable {P σ : Type}

theorem Descriptor.begins_iff {d : Descriptor P σ} {tokens : List String} :
    d.begins tokens = true ↔ d.words ≠ [] ∧ d.words <+: tokens := by
  simp [begins, List.isPrefixOf_iff_prefix]

namespace Registry

variable {r next : Registry P σ} {d : Descriptor P σ} {tokens : List String}

/-! ## Registering -/

/-- The answer to a call that adds a command, and the registry that the call leaves. -/
def call (r : Registry P σ) (d : Descriptor P σ) : Except DispatchError Unit × Registry P σ :=
  (add d).run.run r

/-- The verbs of a registry by their words. -/
def verbs (r : Registry P σ) : List (List String) := r.commands.map (·.words)

theorem call_eq (r : Registry P σ) (d : Descriptor P σ) : r.call d =
    if d.words ∈ r.verbs then (.error (.duplicateVerb d.verb), r)
    else (.ok (), { commands := r.commands ++ [d] }) := by
  have htaken : (r.commands.any fun other => other.words = d.words) = decide (d.words ∈ r.verbs) := by
    rw [Bool.eq_iff_iff]
    simp [verbs]
  change (if (r.commands.any fun other => other.words = d.words) = true then throw (.duplicateVerb d.verb)
    else modify fun r => { commands := r.commands ++ [d] } : Registering P σ Unit).run.run r = _
  rw [htaken]
  by_cases h : d.words ∈ r.verbs <;> simp only [h, decide_true, decide_false, if_true, if_false] <;> rfl

theorem register_eq_ok (h : r.register d = .ok next) : next.commands = r.commands ++ [d] := by
  have hcall : (add d).run.run r = r.call d := rfl
  rw [register, hcall, call_eq] at h
  by_cases htaken : d.words ∈ r.verbs
  · rw [if_pos htaken] at h
    cases h
  · rw [if_neg htaken] at h
    obtain rfl := Except.ok.inj h
    rfl

/-- The answers to calls that are made one after the other, and the registry behind the last one. -/
def course (r : Registry P σ) :
    List (Descriptor P σ) → List (Descriptor P σ × Except DispatchError Unit) × Registry P σ
  | [] => ([], r)
  | d :: rest =>
    let (answer, next) := r.call d
    let (answers, last) := next.course rest
    ((d, answer) :: answers, last)

/-- The commands of the calls that have not been refused, in the order of the calls. -/
def accepted (answers : List (Descriptor P σ × Except DispatchError Unit)) : List (Descriptor P σ) :=
  answers.flatMap fun (d, answer) =>
    match answer with
    | .ok () => [d]
    | .error _ => []

/-- Behind any calls, the registry has the accepted commands, and still no two of the same words. -/
theorem course_spec (h : r.verbs.Nodup) (ds : List (Descriptor P σ)) :
    (r.course ds).2.commands = r.commands ++ accepted (r.course ds).1 ∧ (r.course ds).2.verbs.Nodup := by
  induction ds generalizing r with
  | nil => exact ⟨(List.append_nil _).symm, h⟩
  | cons d rest ih =>
    rw [course, call_eq]
    by_cases htaken : d.words ∈ r.verbs
    · rw [if_pos htaken]
      exact ih h
    · rw [if_neg htaken]
      have hverbs : verbs { commands := r.commands ++ [d] } = r.verbs ++ [d.words] := List.map_append
      have hnext : (verbs { commands := r.commands ++ [d] }).Nodup := by
        rw [hverbs, List.nodup_append_comm]
        exact List.nodup_cons.mpr ⟨htaken, h⟩
      obtain ⟨hcommands, hdistinct⟩ := ih hnext
      refine ⟨hcommands.trans ?_, hdistinct⟩
      rw [List.append_assoc]
      rfl

theorem commands_course (ds : List (Descriptor P σ)) (h : (r.verbs ++ ds.map (·.words)).Nodup) :
    (r.course ds).2.commands = r.commands ++ ds := by
  induction ds generalizing r with
  | nil => exact (List.append_nil _).symm
  | cons d rest ih =>
    have hfree : d.words ∉ r.verbs := fun hmem =>
      (List.nodup_append.mp h).2.2 _ hmem _ List.mem_cons_self rfl
    have hverbs : verbs { commands := r.commands ++ [d] } = r.verbs ++ [d.words] := List.map_append
    rw [List.map_cons, List.append_cons, ← hverbs] at h
    rw [course, call_eq, if_neg hfree]
    exact (ih h).trans (List.append_assoc ..)

/-! ## Resolving -/

/-- Among some commands, one whose verb begins a line, and none whose verb begins it has more words. -/
structure Longest (commands : List (Descriptor P σ)) (tokens : List String) (d : Descriptor P σ) : Prop where
  mem : d ∈ commands
  nonempty : d.words ≠ []
  begins : d.words <+: tokens
  longest : ∀ other ∈ commands, other.words <+: tokens → other.words.length ≤ d.words.length

theorem foldl_longer (ds : List (Descriptor P σ)) (best : Option (Descriptor P σ)) :
    match ds.foldl longer best with
    | none => best = none ∧ ds = []
    | some d => d ∈ best.toList ++ ds ∧ ∀ other ∈ best.toList ++ ds, other.words.length ≤ d.words.length := by
  induction ds generalizing best with
  | nil => cases best <;> simp
  | cons first rest ih =>
    have hrest := ih (longer best first)
    have hbest : ∃ b, longer best first = some b ∧ b ∈ best.toList ++ [first] ∧
        ∀ other ∈ best.toList ++ [first], other.words.length ≤ b.words.length := by
      cases best with
      | none => exact ⟨first, rfl, by simp⟩
      | some b =>
        simp only [longer]
        split
        · rename_i hle
          exact ⟨first, rfl, by simp [hle]⟩
        · rename_i hlt
          exact ⟨b, rfl, by simp [Nat.le_of_not_le hlt]⟩
    obtain ⟨b, hb, hmem, hall⟩ := hbest
    rw [List.foldl_cons]
    rw [hb] at hrest ⊢
    cases hlast : rest.foldl longer (some b) with
    | none => simp [hlast] at hrest
    | some d =>
      rw [hlast] at hrest
      obtain ⟨hd, hlongest⟩ := hrest
      rw [List.append_cons]
      have hbd := hlongest b (by simp)
      constructor
      · rcases List.mem_append.mp hd with hd | hd
        · obtain rfl : d = b := by simpa using hd
          exact List.mem_append_left _ hmem
        · exact List.mem_append_right _ hd
      · intro other hother
        rcases List.mem_append.mp hother with hother | hother
        · exact Nat.le_trans (hall other hother) hbd
        · exact hlongest other (List.mem_append_right _ hother)

theorem mem_candidates : d ∈ r.commands.filter (·.begins tokens) ↔
    d ∈ r.commands ∧ d.words ≠ [] ∧ d.words <+: tokens := by
  rw [List.mem_filter, Descriptor.begins_iff]

theorem longest_of_resolve (h : r.resolve tokens = some d) : Longest r.commands tokens d := by
  have hspec := foldl_longer (r.commands.filter (·.begins tokens)) none
  rw [← resolve, h] at hspec
  obtain ⟨hmem, hlongest⟩ := hspec
  obtain ⟨hcommand, hne, hbegins⟩ := mem_candidates.mp hmem
  refine ⟨hcommand, hne, hbegins, fun other hother hprefix => ?_⟩
  by_cases hnil : other.words = []
  · rw [hnil]
    exact Nat.zero_le _
  · exact hlongest other (mem_candidates.mpr ⟨hother, hnil, hprefix⟩)

theorem mem_of_resolve (h : r.resolve tokens = some d) : d ∈ r.commands := (longest_of_resolve h).mem

theorem resolve_eq_none_iff :
    r.resolve tokens = none ↔ ∀ d ∈ r.commands, d.words ≠ [] → ¬ d.words <+: tokens := by
  constructor
  · intro h d hd hne hbegins
    have hspec := foldl_longer (r.commands.filter (·.begins tokens)) none
    rw [← resolve, h] at hspec
    exact List.ne_nil_of_mem (mem_candidates.mpr ⟨hd, hne, hbegins⟩) hspec.2
  · intro h
    rw [Option.eq_none_iff_forall_ne_some]
    intro d hd
    have hlongest := longest_of_resolve hd
    exact h d hlongest.mem hlongest.nonempty hlongest.begins

theorem Longest.unique {commands : List (Descriptor P σ)} (hdistinct : (commands.map (·.words)).Nodup)
    {d d' : Descriptor P σ} (h : Longest commands tokens d) (h' : Longest commands tokens d') : d = d' := by
  have hlength : d.words.length = d'.words.length :=
    Nat.le_antisymm (h'.longest d h.mem h.begins) (h.longest d' h'.mem h'.begins)
  have hwords : d.words = d'.words :=
    (List.prefix_of_prefix_length_le h.begins h'.begins (Nat.le_of_eq hlength)).eq_of_length hlength
  exact List.inj_on_of_nodup_map hdistinct h.mem h'.mem hwords

theorem resolve_eq_some_iff (hdistinct : r.verbs.Nodup) :
    r.resolve tokens = some d ↔ Longest r.commands tokens d := by
  refine ⟨longest_of_resolve, fun h => ?_⟩
  cases hresolve : r.resolve tokens with
  | none => exact absurd h.begins (resolve_eq_none_iff.mp hresolve d h.mem h.nonempty)
  | some other => rw [(longest_of_resolve hresolve).unique hdistinct h]

/-- Of commands with different words, it does not matter in which order they stand. -/
theorem resolve_perm (hdistinct : r.verbs.Nodup) (h : next.commands.Perm r.commands) (tokens : List String) :
    next.resolve tokens = r.resolve tokens := by
  have hnext : next.verbs.Nodup := (h.map _).nodup_iff.mpr hdistinct
  refine Option.ext fun d => ?_
  rw [resolve_eq_some_iff hnext, resolve_eq_some_iff hdistinct]
  have hmem : ∀ d, d ∈ next.commands ↔ d ∈ r.commands := fun d => h.mem_iff
  constructor
  · rintro ⟨hd, hne, hbegins, hlongest⟩
    exact ⟨(hmem d).mp hd, hne, hbegins, fun other hother => hlongest other ((hmem other).mpr hother)⟩
  · rintro ⟨hd, hne, hbegins, hlongest⟩
    exact ⟨(hmem d).mpr hd, hne, hbegins, fun other hother => hlongest other ((hmem other).mp hother)⟩

/-! ## What has been registered -/

/-- The accepted commands of a registry decide what becomes of the next call and of every line. -/
structure Holds (r : Registry P σ) (commands : List (Descriptor P σ)) : Prop where
  /-- No call is refused but for a verb of the same words as an accepted one. -/
  refused_iff : ∀ d e, (r.call d).1 = .error e ↔
    e = .duplicateVerb d.verb ∧ ∃ earlier ∈ commands, earlier.words = d.words
  unchanged : ∀ d e, (r.call d).1 = .error e → (r.call d).2 = r
  resolved_iff : ∀ tokens d, r.resolve tokens = some d ↔ Longest commands tokens d
  unknown_iff : ∀ tokens, r.resolve tokens = none ↔
    ∀ d ∈ commands, d.words ≠ [] → ¬ d.words <+: tokens

theorem holds_commands (h : r.verbs.Nodup) : r.Holds r.commands where
  refused_iff d e := by
    have hmem : d.words ∈ r.verbs ↔ ∃ earlier ∈ r.commands, earlier.words = d.words := List.mem_map
    rw [call_eq, ← hmem]
    by_cases htaken : d.words ∈ r.verbs
    · simp [htaken, eq_comm]
    · simp [htaken]
  unchanged d e hrefused := by
    rw [call_eq] at hrefused ⊢
    by_cases htaken : d.words ∈ r.verbs
    · rw [if_pos htaken]
    · rw [if_neg htaken] at hrefused
      cases hrefused
  resolved_iff _ _ := resolve_eq_some_iff h
  unknown_iff _ := resolve_eq_none_iff

/-- After any calls on an empty registry, a verb is refused if it is taken, and a line is resolved to the longest
of the accepted verbs. If all verbs have different words, they may be registered in any order. -/
theorem longest_verb_resolved (ds : List (Descriptor P σ)) :
    let (answers, r) := ({} : Registry P σ).course ds
    r.Holds (accepted answers) ∧
      ((ds.map (·.words)).Nodup → ∀ others : List (Descriptor P σ), others.Perm ds → ∀ tokens,
        (({} : Registry P σ).course others).2.resolve tokens = r.resolve tokens) := by
  have hempty : ({} : Registry P σ).verbs.Nodup := .nil
  obtain ⟨hcommands, hdistinct⟩ := course_spec hempty ds
  constructor
  · have hholds := holds_commands hdistinct
    rw [hcommands] at hholds
    exact hholds
  · intro hwords others hperm tokens
    have hothers : (others.map (·.words)).Nodup := (hperm.map _).nodup_iff.mpr hwords
    have hsame := commands_course (r := {}) ds hwords
    have hsame' := commands_course (r := {}) others hothers
    refine resolve_perm hdistinct ?_ tokens
    rw [hsame, hsame']
    exact hperm

theorem neighbor_resolved_either_way :
    let d (verb : String) : Descriptor Unit Unit :=
      { verb, handler := fun _ sessions _ => { sessions, outcome := .ok (.answered []) } }
    let ds := [d "show", d " show  neighbor", d "show neighbor extensive"]
    let tokens := ["show", "neighbor", "summary"]
    (ds.map (·.words)).Nodup ∧ ds.reverse.Perm ds ∧
      ((({} : Registry Unit Unit).course ds.reverse).2.resolve tokens).map (·.verb) = some " show  neighbor" := by
  intro d ds tokens
  have hwords : (ds.map (·.words)).Nodup := by decide +kernel
  have hperm : ds.reverse.Perm ds := List.reverse_perm ds
  refine ⟨hwords, hperm, ?_⟩
  rw [(longest_verb_resolved ds).2 hwords ds.reverse hperm tokens]
  decide +kernel

end Registry

end RouteServer.Command
