import RouteServer.Command.Standard
import RouteServer.Proofs.Address
import RouteServer.Proofs.Keyed
import RouteServer.Proofs.Text
import RouteServer.Session.Table

/-! # Tearing sessions down: all or nothing

A line that cannot be read changes nothing. One that can be read tears down the established sessions of the
neighbors that it describes, and leaves every other session and every other request as it was.
-/

namespace RouteServer.Command.Teardown

open Session (Key Entry State Table)

/-! ## Reading the line -/

/-- A description and a code, with a space between them. -/
inductive Accepted : String → Request → Prop
  | request (front word : String) (selectors : List Selector) (code : UInt32)
    (hword : ' ' ∉ word.toList) (hcode : Decimal.IsCode word code)
    (hfront : Selector.parseAll front = .ok selectors) :
    Accepted (front ++ " " ++ word) { selectors, code }

/-- Without a space, without a code behind the last space, or without a description before it. -/
inductive Refused : String → CommandError → Prop
  | missingCode (arguments : String) (hspace : ' ' ∉ arguments.toList) : Refused arguments .missingCode
  | invalidCode (front word : String) (hword : ' ' ∉ word.toList)
    (hcode : ∀ code, ¬ Decimal.IsCode word code) : Refused (front ++ " " ++ word) (.invalidCode word)
  | invalidDescription (front word : String) (code : UInt32) (cause : SelectorError)
    (hword : ' ' ∉ word.toList) (hcode : Decimal.IsCode word code)
    (hfront : Selector.parseAll front = .error cause) :
    Refused (front ++ " " ++ word) (.invalidDescription front cause)

theorem accepted_or_refused (arguments : String) :
    (∃ request, Accepted arguments request) ∨ ∃ cause, Refused arguments cause := by
  by_cases hspace : ' ' ∈ arguments.toList
  · obtain ⟨front, word, rfl, hword⟩ := Text.exists_last_space hspace
    by_cases hcode : ∃ code, Decimal.IsCode word code
    · obtain ⟨code, hcode⟩ := hcode
      cases hfront : Selector.parseAll front with
      | ok selectors => exact .inl ⟨_, .request front word selectors code hword hcode hfront⟩
      | error cause => exact .inr ⟨_, .invalidDescription front word code cause hword hcode hfront⟩
    · exact .inr ⟨_, .invalidCode front word hword (not_exists.mp hcode)⟩
  · exact .inr ⟨_, .missingCode arguments hspace⟩

theorem parse_of_accepted {arguments : String} {request : Request} (h : Accepted arguments request) :
    Request.parse arguments = .ok request := by
  obtain ⟨front, word, selectors, code, hword, hcode, hfront⟩ := h
  simp only [Request.parse, Text.splitLastSpace_append front hword,
    Decimal.readCode?_eq_some_iff.mpr hcode, hfront]

theorem parse_of_refused {arguments : String} {cause : CommandError} (h : Refused arguments cause) :
    Request.parse arguments = .error cause := by
  cases h with
  | missingCode _ hspace => simp only [Request.parse, Text.splitLastSpace_of_notMem hspace]
  | invalidCode front word hword hcode =>
    have hnone : Decimal.readCode? word = none := by
      rw [Option.eq_none_iff_forall_ne_some]
      exact fun code h => hcode code (Decimal.readCode?_eq_some_iff.mp h)
    simp only [Request.parse, Text.splitLastSpace_append front hword, hnone]
  | invalidDescription front word code cause hword hcode hfront =>
    simp only [Request.parse, Text.splitLastSpace_append front hword,
      Decimal.readCode?_eq_some_iff.mpr hcode, hfront]

theorem parse_eq_ok_iff {arguments : String} {request : Request} :
    Request.parse arguments = .ok request ↔ Accepted arguments request := by
  refine ⟨fun h => ?_, parse_of_accepted⟩
  rcases accepted_or_refused arguments with ⟨_, haccepted⟩ | ⟨_, hrefused⟩
  · obtain rfl := Except.ok.inj (h.symm.trans (parse_of_accepted haccepted))
    exact haccepted
  · cases h.symm.trans (parse_of_refused hrefused)

theorem parse_eq_error_iff {arguments : String} {cause : CommandError} :
    Request.parse arguments = .error cause ↔ Refused arguments cause := by
  refine ⟨fun h => ?_, parse_of_refused⟩
  rcases accepted_or_refused arguments with ⟨_, haccepted⟩ | ⟨_, hrefused⟩
  · cases h.symm.trans (parse_of_accepted haccepted)
  · obtain rfl := Except.error.inj (h.symm.trans (parse_of_refused hrefused))
    exact hrefused

/-! ## Tearing down -/

/-- Whether a request picks a session: it is established, and a selector matches its neighbor. -/
def Request.picks (r : Request) (t : Table) (key : Key) : Bool :=
  (t.entries.get? key).any fun e =>
    e.state.fsm.isEstablished && r.selectors.any (·.matchesName e.neighbor.name)

/-- An established session that has been torn down. -/
def tornDown (now : Nat) (e : Entry) : Entry :=
  { e with state := { e.state with fsm := .idle, changedAt := now, remote := none } }

/-- A table before and after the sessions of some keys have been dealt with. -/
structure Handled (r : Request) (before : Table) (keys : List Key) (after : Table) : Prop where
  now : after.now = before.now
  torn : ∀ key ∈ keys, r.picks before key = true →
    after.entries.get? key = (before.entries.get? key).map (tornDown before.now) ∧
      after.teardowns.get? key = some r.code
  kept : ∀ key, (key ∈ keys → r.picks before key = false) →
    after.entries.get? key = before.entries.get? key ∧
      after.teardowns.get? key = before.teardowns.get? key

theorem mem_established {t : Table} {key : Key} :
    key ∈ t.established ↔ ∃ e, t.entries.get? key = some e ∧ e.state.fsm = .established := by
  simp [Table.established, Keyed.mem_map_filter, Session.FsmState.isEstablished]

theorem established_nodup (t : Table) : t.established.Nodup :=
  (List.filter_sublist.map _).nodup t.entries.keys_nodup

variable {t : Table} {key : Key} {e : Entry}

theorem teardown_now (t : Table) (key : Key) (code : UInt32) : (t.teardown key code).now = t.now := by
  unfold Table.teardown
  split <;> rfl

theorem teardown_get? (hget : t.entries.get? key = some e) (hfsm : e.state.fsm = .established)
    (code : UInt32) (k : Key) :
    (t.teardown key code).entries.get? k =
        (if k = key then some (tornDown t.now e) else t.entries.get? k) ∧
      (t.teardown key code).teardowns.get? k = if k = key then some code else t.teardowns.get? k := by
  have hthere : t.contains key = true := Keyed.contains_iff.mpr ⟨e, hget⟩
  simp only [Table.teardown, hthere, if_true, Keyed.get?_modify, Keyed.get?_insert, and_true]
  by_cases hk : k = key
  · subst hk
    simp [hget, tornDown, State.transition, hfsm, Session.FsmState.isEstablished]
  · simp only [hk, if_false]

theorem applyTo_established (r : Request) (hget : t.entries.get? key = some e)
    (hfsm : e.state.fsm = .established) :
    (r.applyTo t key).1 = if r.picks t key then t.teardown key r.code else t := by
  have hname : (Session.Provider.view t).name key = some e.neighbor.name :=
    congrArg (Option.map fun e : Entry => e.neighbor.name) hget
  have hpicks : r.picks t key = r.selectors.any (·.matchesName e.neighbor.name) := by
    simp [Request.picks, hget, hfsm, Session.FsmState.isEstablished]
  simp only [Request.applyTo, hname, hpicks]
  cases hfind : r.selectors.find? (·.matchesName e.neighbor.name) with
  | none =>
    have hany : r.selectors.any (·.matchesName e.neighbor.name) = false := by
      simpa using List.find?_eq_none.mp hfind
    simp [hany]
  | some selector =>
    have hany : r.selectors.any (·.matchesName e.neighbor.name) = true :=
      List.any_eq_true.mpr ⟨selector, List.mem_of_find?_eq_some hfind, by simpa using List.find?_some hfind⟩
    simp only [hany, if_true]
    rfl

variable {r : Request} {before : Table} {keys : List Key}

theorem Handled.refl (r : Request) (t : Table) : Handled r t [] t where
  now := rfl
  torn _ hmem := nomatch hmem
  kept _ _ := ⟨rfl, rfl⟩

theorem Handled.step (h : Handled r before keys t) (hkey : key ∉ keys)
    (hest : key ∈ before.established) : Handled r before (keys ++ [key]) (r.applyTo t key).1 := by
  -- The table has changed meanwhile, but not for a key that has not been dealt with.
  obtain ⟨e, hold, hfsm⟩ := mem_established.mp hest
  have hget := (h.kept key fun hmem => absurd hmem hkey).1.trans hold
  have hsame : r.picks t key = r.picks before key := by rw [Request.picks, hget, Request.picks, hold]
  rw [applyTo_established r hget hfsm, hsame]
  cases hpicks : r.picks before key with
  | false =>
    constructor
    · exact h.now
    · intro k hmem hk
      refine h.torn k ?_ hk
      rcases List.mem_append.mp hmem with hmem | hmem
      · exact hmem
      · obtain rfl := List.mem_singleton.mp hmem
        rw [hpicks] at hk
        cases hk
    · exact fun k hk => h.kept k fun hmem => hk (List.mem_append_left _ hmem)
  | true =>
    rw [if_pos rfl]
    constructor
    · exact (teardown_now t key r.code).trans h.now
    · intro k hmem hk
      obtain ⟨hentry, hcode⟩ := teardown_get? hget hfsm r.code k
      rw [hentry, hcode]
      by_cases hkk : k = key
      · subst hkk
        rw [if_pos rfl, if_pos rfl, hold, h.now]
        exact ⟨rfl, rfl⟩
      · rw [if_neg hkk, if_neg hkk]
        exact h.torn k (by simpa [hkk] using hmem) hk
    · intro k hk
      obtain ⟨hentry, hcode⟩ := teardown_get? hget hfsm r.code k
      have hkk : k ≠ key := by
        rintro rfl
        rw [hk (by simp)] at hpicks
        cases hpicks
      rw [hentry, hcode, if_neg hkk, if_neg hkk]
      exact h.kept k fun hmem => hk (List.mem_append_left _ hmem)

theorem Handled.foldl {acc : Table × List Log.Record} (h : Handled r before keys acc.1)
    {rest : List Key} (hnd : (keys ++ rest).Nodup) (hest : ∀ key ∈ rest, key ∈ before.established) :
    Handled r before (keys ++ rest) (rest.foldl (fun (sessions, notes) key =>
      let (sessions, more) := r.applyTo sessions key
      (sessions, notes ++ more)) acc).1 := by
  induction rest generalizing keys acc with
  | nil => simpa using h
  | cons key rest ih =>
    have hnew : key ∉ keys := fun hmem =>
      (List.nodup_append.mp hnd).2.2 key hmem key List.mem_cons_self rfl
    rw [List.append_cons] at hnd ⊢
    exact ih (h.step hnew (hest key List.mem_cons_self)) hnd
      fun key hmem => hest key (List.mem_cons_of_mem _ hmem)

theorem handled_run (r : Request) (t : Table) : Handled r t t.established (r.run t).1 := by
  have hstart : Handled r t [] ((t, []) : Table × List Log.Record).1 := Handled.refl r t
  exact hstart.foldl (established_nodup t) fun _ h => h

/-! ## The command -/

/-- What a request leaves of a table. -/
structure TornDown (r : Request) (before after : Table) : Prop where
  /-- The picked sessions are idle, forget what their peers said, and wait to be torn down with the code. -/
  torn : ∀ key e, before.entries.get? key = some e → r.picks before key = true →
    after.entries.get? key =
        some { e with state := { e.state with fsm := .idle, remote := none, changedAt := before.now } } ∧
      after.teardowns.get? key = some r.code
  /-- All other sessions and requests are as before. -/
  kept : ∀ key, r.picks before key = false →
    after.entries.get? key = before.entries.get? key ∧
      after.teardowns.get? key = before.teardowns.get? key
  /-- The picked sessions are no longer established, and the others are if they were. -/
  established : ∀ key, key ∈ after.established ↔ key ∈ before.established ∧ r.picks before key = false

theorem mem_established_of_picks (h : r.picks t key = true) : key ∈ t.established := by
  cases hget : t.entries.get? key with
  | none => simp [Request.picks, hget] at h
  | some e =>
    simp only [Request.picks, hget, Option.any_some, Bool.and_eq_true] at h
    exact mem_established.mpr ⟨e, hget, of_decide_eq_true h.1⟩

theorem Handled.tornDown {after : Table} (h : Handled r before before.established after) :
    TornDown r before after := by
  have htorn : ∀ key, r.picks before key = true → _ := fun key hpicks =>
    h.torn key (mem_established_of_picks hpicks) hpicks
  have hkept : ∀ key, r.picks before key = false → _ := fun key hpicks => h.kept key fun _ => hpicks
  refine ⟨fun key e hget hpicks => ?_, hkept, fun key => ?_⟩
  · have := htorn key hpicks
    rw [hget] at this
    exact this
  · rw [mem_established, mem_established]
    cases hpicks : r.picks before key with
    | true =>
      rw [(htorn key hpicks).1]
      refine ⟨?_, fun h => nomatch h.2⟩
      rintro ⟨e, he, hfsm⟩
      obtain ⟨_, -, rfl⟩ := Option.map_eq_some_iff.mp he
      cases hfsm
    | false =>
      rw [(hkept key hpicks).1]
      simp

/-- A line that is refused changes nothing; any other line tears down exactly what it describes. -/
theorem teardown_all_or_nothing (t : Table) (invocation : Invocation) (configuration : Configuration) :
    let reply := handler (σ := σ) invocation t configuration
    (∀ cause, reply.outcome = .error cause ↔ Refused invocation.arguments cause) ∧
      ((∃ cause, reply.outcome = .error cause) → reply.sessions = t) ∧
      ((∀ cause, reply.outcome ≠ .error cause) → ∃ request,
        Accepted invocation.arguments request ∧ reply.outcome = .ok (.answered []) ∧
          TornDown request t reply.sessions) := by
  simp only [handler, ← parse_eq_error_iff, ← parse_eq_ok_iff]
  cases hparse : Request.parse invocation.arguments with
  | error cause => simp
  | ok request =>
    refine ⟨by simp, by simp, fun _ => ⟨request, rfl, rfl, ?_⟩⟩
    exact (handled_run request t).tornDown

end RouteServer.Command.Teardown
