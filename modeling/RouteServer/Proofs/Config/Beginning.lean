import RouteServer.Proofs.Config.Accepted
import RouteServer.Proofs.Config.Coverage

/-! # What a text begins with

A text is read from its beginning on. A line feed ends every token, so the tokens before it do not depend on what
comes behind it; the parser refuses a token as soon as it reads it, and only adds to what has been declared.
-/

namespace RouteServer

/-! ## Configurations that go on -/

/-- A configuration has all that another one has, and maybe more behind it. -/
structure Configuration.Continues (c : Configuration) (earlier : Configuration) : Prop where
  blocks : earlier.blocks <+: c.blocks
  neighbors : earlier.neighbors <+: c.neighbors

namespace Configuration.Continues

variable {c middle earlier : Configuration}

theorem refl (c : Configuration) : c.Continues c := ⟨List.prefix_rfl, List.prefix_rfl⟩

theorem trans (h : c.Continues middle) (h' : middle.Continues earlier) : c.Continues earlier :=
  ⟨h'.blocks.trans h.blocks, h'.neighbors.trans h.neighbors⟩

theorem block? (h : c.Continues earlier) {name : String} {families : Families}
    (hblock : earlier.block? name = some families) : c.block? name = some families := by
  obtain ⟨more, hmore⟩ := h.blocks
  rw [Configuration.block?, ← hmore, List.lookup_append, ← Configuration.block?, hblock]
  rfl

end Configuration.Continues

namespace Config

variable {st next : State} {token : Token} {tokens first more : List Token}

/-! ## The steps of the parser -/

namespace State

theorem closeBlock_continues {name : String} {nameAt : Location} {families : Families}
    (h : st.closeBlock name nameAt families = .ok next) : next.declared.Continues st.declared := by
  unfold closeBlock at h
  split at h
  · cases h
  · obtain rfl := Except.ok.inj h
    exact ⟨List.prefix_append .., List.prefix_rfl⟩

theorem closeNeighbor_continues {draft : Draft} (h : st.closeNeighbor draft = .ok next) :
    next.declared.Continues st.declared := by
  obtain ⟨n, -, hnext⟩ := bind_eq_ok_iff.mp h
  obtain rfl := Except.ok.inj hnext
  exact ⟨List.prefix_rfl, List.prefix_append ..⟩

theorem continues_of_ok {place : Place} (h : (.ok { st with place } : Except Error State) = .ok next) :
    next.declared.Continues st.declared := by
  obtain rfl := Except.ok.inj h
  exact .refl st.declared

theorem continues_of_place {α : Type} {x : Except Error α} (place : α → Place)
    (h : (do return { st with place := place (← x) } : Except Error State) = .ok next) :
    next.declared.Continues st.declared := by
  obtain ⟨a, -, hnext⟩ := bind_eq_ok_iff.mp h
  exact continues_of_ok hnext

theorem step_continues (h : st.step token = .ok next) : next.declared.Continues st.declared := by
  obtain ⟨declared, place⟩ := st
  cases place with
  | top =>
    simp only [step] at h
    split at h
    case h_4 => cases h
    all_goals exact continues_of_ok h
  | blockName | blockOpen | neighborOpen =>
    simp only [step] at h
    split at h
    · exact continues_of_ok h
    · cases h
  | block name nameAt declaration place =>
    obtain ⟨⟨declaration, _ | place⟩, -, hnext⟩ := bind_eq_ok_iff.mp h
    · exact closeBlock_continues hnext
    · exact continues_of_ok hnext
  | neighborAddress start =>
    simp only [step] at h
    split at h
    · cases h
    · split at h
      · cases h
      · exact continues_of_ok h
  | neighbor draft =>
    simp only [step] at h
    split at h
    · exact closeNeighbor_continues h
    · exact continues_of_ok h
    · split at h
      · cases h
      all_goals exact continues_of_ok h
    · cases h
  | value draft s keywordAt =>
    simp only [step] at h
    split at h
    · cases h
    · exact continues_of_place .neighbor h
  | familyReference draft keywordAt =>
    simp only [step] at h
    split at h
    · exact continues_of_ok h
    · split at h
      · cases h
      · exact continues_of_place .neighbor h
    · cases h
  | inline draft keywordAt declaration place =>
    obtain ⟨⟨declaration, _ | place⟩, -, hnext⟩ := bind_eq_ok_iff.mp h
    · exact continues_of_place .neighbor hnext
    · exact continues_of_ok hnext

theorem read_continues (h : tokens.foldlM step st = .ok next) : next.declared.Continues st.declared := by
  induction tokens generalizing st with
  | nil =>
    obtain rfl := Except.ok.inj h
    exact .refl st.declared
  | cons token rest ih =>
    obtain ⟨middle, hstep, hrest⟩ := bind_eq_ok_iff.mp h
    exact (ih hrest).trans (step_continues hstep)

end State

/-! ## Tokens of a beginning -/

theorem ofTokens_append_of_error {e : Error} (h : Configuration.ofTokens first = .error e)
    (hend : ∀ expected, e ≠ .unexpectedEnd expected) : Configuration.ofTokens (first ++ more) = .error e := by
  rcases bind_eq_error_iff.mp h with hread | ⟨st, -, hfinish⟩
  · rw [Configuration.ofTokens, List.foldlM_append, hread]
    rfl
  · unfold State.finish at hfinish
    split at hfinish
    · cases hfinish
    · obtain rfl := Except.error.inj hfinish
      exact absurd rfl (hend _)

theorem declared_of_finish {c : Configuration} (h : st.finish = .ok c) : c = st.declared := by
  unfold State.finish at h
  split at h
  · exact (Except.ok.inj h).symm
  · cases h

theorem ofTokens_append_continues {c earlier : Configuration} (hfirst : Configuration.ofTokens first = .ok earlier)
    (hall : Configuration.ofTokens (first ++ more) = .ok c) : c.Continues earlier := by
  obtain ⟨st, hread, hearlier⟩ := bind_eq_ok_iff.mp hfirst
  rw [Configuration.ofTokens, List.foldlM_append, hread] at hall
  obtain ⟨last, hmore, hc⟩ := bind_eq_ok_iff.mp hall
  rw [declared_of_finish hearlier, declared_of_finish hc]
  exact State.read_continues hmore

/-! ## Texts -/

theorem tokenize_append_feed (s t : String) : tokenize (s ++ "\n" ++ t) = do
    let first ← tokenize s
    let more ← ScanMode.gap.scan ⟨(s.toList.foldl Location.advance .start).line + 1, 1⟩ t.toList
    return first ++ more := by
  have htext : (s ++ "\n" ++ t).toList = s.toList ++ '\n' :: t.toList := by simp
  rw [tokenize, htext]
  exact ScanMode.scan_append_feed s.toList .gap .start t.toList

/-- What is wrong on the first lines of a text is reported, whatever comes behind them, and what they declare
stays as it is. -/
theorem decided_by_beginning {s t : String} (h : tokenize (s ++ "\n" ++ t) = .ok tokens) :
    (∀ e, Configuration.parse s = .error e → (∀ expected, e ≠ .unexpectedEnd expected) →
      Configuration.parse (s ++ "\n" ++ t) = .error e) ∧
    ∀ c c', Configuration.parse s = .ok c → Configuration.parse (s ++ "\n" ++ t) = .ok c' →
      c.neighbors <+: c'.neighbors ∧
        ∀ name families, c.block? name = some families → c'.block? name = some families := by
  have hscan := h
  rw [tokenize_append_feed] at hscan
  obtain ⟨first, hfirst, hrest⟩ := bind_eq_ok_iff.mp hscan
  obtain ⟨more, -, hall⟩ := bind_eq_ok_iff.mp hrest
  obtain rfl := Except.ok.inj hall
  simp only [Configuration.parse, hfirst, h]
  constructor
  · intro e he hend
    exact ofTokens_append_of_error he hend
  · intro c c' hc hc'
    have hcontinues := ofTokens_append_continues hc hc'
    exact ⟨hcontinues.neighbors, fun _ _ hblock => hcontinues.block? hblock⟩

theorem second_core_reported :
    let s := "family core \x7b ipv4 unicast \x7d"
    let t := "neighbor 10.0.0.1 \x7b local-as 1; peer-as 2; family core; \x7d"
    (∃ tokens, tokenize (s ++ "\n" ++ t) = .ok tokens) ∧
    (∃ c c', Configuration.parse s = .ok c ∧ Configuration.parse (s ++ "\n" ++ t) = .ok c' ∧
      c.block? "core" = some (.ofList [⟨.ipv4, .unicast⟩]) ∧ c'.block? "core" = c.block? "core") ∧
    (∃ tokens, tokenize (s ++ "\n" ++ s ++ "\n" ++ t) = .ok tokens) ∧
    Configuration.parse (s ++ "\n" ++ s) = .error (.duplicateFamilyBlock "core" ⟨2, 8⟩) ∧
    Configuration.parse (s ++ "\n" ++ s ++ "\n" ++ t) = .error (.duplicateFamilyBlock "core" ⟨2, 8⟩) := by
  intro s t
  have hscan : ∀ text ∈ [s ++ "\n" ++ t, s ++ "\n" ++ s ++ "\n" ++ t], ∃ tokens, tokenize text = .ok tokens := by
    simp only [← toOption_eq_some_iff, ← Option.isSome_iff_exists]
    decide +kernel
  obtain ⟨tokens, htokens⟩ := hscan _ List.mem_cons_self
  obtain ⟨tokens', htokens'⟩ := hscan _ (List.mem_cons_of_mem _ List.mem_cons_self)
  have hwhole : (Configuration.parse (s ++ "\n" ++ t)).toOption.isSome = true := by decide +kernel
  obtain ⟨c', hc'⟩ := Option.isSome_iff_exists.mp hwhole
  rw [toOption_eq_some_iff] at hc'
  have hc : Configuration.parse s = .ok { blocks := [("core", .ofList [⟨.ipv4, .unicast⟩])] } := by decide +kernel
  have hkept := ((decided_by_beginning htokens).2 _ c' hc hc').2 "core" _ rfl
  have he : Configuration.parse (s ++ "\n" ++ s) = .error (.duplicateFamilyBlock "core" ⟨2, 8⟩) := by
    decide +kernel
  have hreported := (decided_by_beginning htokens').1 _ he nofun
  exact ⟨⟨tokens, htokens⟩, ⟨_, c', hc, hc', rfl, hkept⟩, ⟨tokens', htokens'⟩, he, hreported⟩

end Config

end RouteServer
