import RouteServer.Proofs.Session.Snapshots

/-! # Going idle

A session that changes to idle forgets the OPEN of its peer. A session that is idle already does not change, and
an OPEN that it got while it was idle stays.
-/

namespace RouteServer.Session

variable {events before since : List Event} {data : OpenData}

/-! ## An OPEN in an idle session -/

/-- An OPEN that came last, to an idle session which has been idle since. -/
def OpenedIdle (events : List Event) (data : OpenData) : Prop :=
  ∃ before since, events = before ++ .opened data :: since ∧ (∀ other, .opened other ∉ since) ∧
    fsmAfter before = .idle ∧ ∀ target, .transition target ∈ since → target = .idle

theorem fsmAfter_append_of_idle (hbefore : fsmAfter before = .idle)
    (hsince : ∀ target, .transition target ∈ since → target = .idle) : fsmAfter (before ++ since) = .idle := by
  induction since using List.reverseRecOn with
  | nil => rwa [List.append_nil]
  | append_singleton since event ih =>
    have hidle := ih fun target hmem => hsince target (List.mem_append_left _ hmem)
    rw [← List.append_assoc, fsmAfter_concat, hidle]
    cases event with
    | transition target => exact hsince target (List.mem_append_right _ (List.mem_singleton_self _))
    | opened data => rfl
    | sent kind => rfl
    | received kind => rfl

theorem idle_since_opened (hidle : fsmAfter (before ++ .opened data :: since) = .idle)
    (hkept : ∀ mid rest, since = mid ++ .transition .idle :: rest →
      fsmAfter (before ++ .opened data :: mid) = .idle) :
    fsmAfter before = .idle ∧ ∀ target, .transition target ∈ since → target = .idle := by
  induction since using List.reverseRecOn with
  | nil =>
    rw [fsmAfter_concat] at hidle
    exact ⟨hidle, fun target hmem => nomatch hmem⟩
  | append_singleton since event ih =>
    rw [← List.cons_append, ← List.append_assoc, fsmAfter_concat] at hidle
    have hkept' : ∀ mid rest, since = mid ++ .transition .idle :: rest →
        fsmAfter (before ++ .opened data :: mid) = .idle := by
      rintro mid rest rfl
      exact hkept mid (rest ++ [event]) (by simp)
    cases event with
    | transition target =>
      -- It ends in the idle state, and as the OPEN is kept it has been idle before, too.
      obtain rfl : target = .idle := hidle
      obtain ⟨hbefore, hsince⟩ := ih (hkept since [] rfl) hkept'
      refine ⟨hbefore, fun target hmem => ?_⟩
      rcases List.mem_append.mp hmem with hmem | hmem
      · exact hsince target hmem
      · exact Event.transition.inj (List.mem_singleton.mp hmem)
    | opened other => simpa using ih hidle hkept'
    | sent kind => simpa using ih hidle hkept'
    | received kind => simpa using ih hidle hkept'

theorem retains_concat_idle : Retains (events ++ [.transition .idle]) data ↔ OpenedIdle events data := by
  have hother : ∀ other, Event.transition .idle ≠ .opened other := fun _ h => nomatch h
  rw [retains_concat hother]
  constructor
  · rintro ⟨⟨before, since, rfl, hlast, hkept⟩, hidle⟩
    exact ⟨before, since, rfl, hlast, idle_since_opened (hidle rfl) hkept⟩
  · rintro ⟨before, since, rfl, hlast, hbefore, hsince⟩
    have hopened : fsmAfter (before ++ [.opened data]) = .idle := (fsmAfter_concat ..).trans hbefore
    refine ⟨⟨before, since, rfl, hlast, ?_⟩, fun _ => ?_⟩
    · rintro mid rest rfl
      rw [List.append_cons]
      exact fsmAfter_append_of_idle hopened fun target hmem => hsince target (List.mem_append_left _ hmem)
    · rw [List.append_cons]
      exact fsmAfter_append_of_idle hopened hsince

/-! ## Snapshots of idle sessions -/

/-- A snapshot that tells nothing of the peer. -/
structure Snapshot.Silent (snap : Snapshot) : Prop where
  peerAs : snap.peerAs = none
  peerId : snap.peerId = none
  peerHold : snap.peerHold = none
  capabilities : ∀ name c, snap.capabilities.get? name = some c → c.theirs = none
  families : ∀ f state, snap.families.get? f = some state →
    state.theirs = false ∧ state.sends = false ∧ state.receives = false

theorem Snapshot.ShowsPeer.silent_iff {snap : Snapshot} {n : Neighbor} {remote : Option OpenData}
    (h : snap.ShowsPeer n remote) : snap.Silent ↔ remote = none := by
  constructor
  · intro hsilent
    exact Option.map_eq_none_iff.mp (h.peerAs.symm.trans hsilent.peerAs)
  · rintro rfl
    refine ⟨h.peerAs, h.peerId, h.peerHold, h.capabilities.theirs, fun f state hstate => ⟨?_, ?_⟩⟩
    · rw [← Bool.not_eq_true, h.families.theirs f state hstate]
      rintro ⟨data, hdata, -⟩
      cases hdata
    · exact h.families.directions f state hstate

/-- What a session that is made idle still tells of its peer is the OPEN that came to it while it was idle. -/
theorem peer_forgotten_unless_opened_idle (history : List Operation) (key : Key) (operation : Operation)
    (hkey : (Table.after history).contains key = true)
    (hoperation : operation = .update key (.transition .idle) ∨ ∃ code, operation = .teardown key code) :
    ∃ n events snap, Lived key n history events ∧
      (Table.after (history ++ [operation])).view.snapshot key = some snap ∧ snap.fsm = .idle ∧
      (snap.Silent ↔ ∀ data, ¬ OpenedIdle events data) ∧
      ∀ data, OpenedIdle events data → snap.ShowsPeer n (some data) := by
  obtain ⟨n, events, hlived⟩ := contains_after.mp hkey
  have hevent : operation.eventFor key = some (.transition .idle) := by
    rcases hoperation with rfl | ⟨code, rfl⟩
    · exact if_pos rfl
    · exact if_pos rfl
  have hother : ∀ m, operation = .add m → Key.ofNeighbor m ≠ key := by
    rintro m rfl
    cases hevent
  have hlived' := hlived.concat hother
  rw [hevent, Option.toList_some] at hlived'
  obtain ⟨snap, hsnap, hshows⟩ := hlived'.shown
  obtain ⟨remote, hretains, hpeer⟩ := hshows.peer
  simp only [retains_concat_idle] at hretains
  refine ⟨n, events, snap, hlived, hsnap, hshows.fsm.trans (fsmAfter_concat ..), ?_, fun data hdata => ?_⟩
  · simp only [hpeer.silent_iff, Option.eq_none_iff_forall_ne_some, ne_eq, hretains]
  · rwa [(hretains data).mpr hdata] at hpeer

/-- An OPEN that comes after a teardown is still told when the session is made idle again. -/
theorem opened_after_teardown :
    let n : Neighbor := { peerAddress := .v4 ⟨10, 0, 0, 1⟩, localAs := 65000, peerAs := 65001, holdTime := 180 }
    let key := Key.ofNeighbor n
    let data : OpenData := { peerAs := 65001, routerId := ⟨192, 0, 2, 1⟩, holdTime := 90,
                             capabilities := .ofList [("asn4", ())], families := .ofList [(⟨.ipv4, .unicast⟩, ())],
                             addPath := .ofList [(⟨.ipv4, .unicast⟩, .send)] }
    let history := [.add n, .update key (.transition .openSent), .teardown key 6, .update key (.opened data)]
    let operation : Operation := .update key (.transition .idle)
    (Table.after history).contains key = true ∧
      (operation = .update key (.transition .idle) ∨ ∃ code, operation = .teardown key code) ∧
      ∃ n events snap, Lived key n history events ∧
        (Table.after (history ++ [operation])).view.snapshot key = some snap ∧ snap.fsm = .idle ∧
        (snap.Silent ↔ ∀ data, ¬ OpenedIdle events data) ∧
        ∀ data, OpenedIdle events data → snap.ShowsPeer n (some data) := by
  intro n key data history operation
  have hkey : (Table.after history).contains key = true := by decide
  exact ⟨hkey, .inl rfl, peer_forgotten_unless_opened_idle history key operation hkey (.inl rfl)⟩

theorem peer_told_by_idle_session :
    ¬ ∀ (history : List Operation) (key : Key) (operation : Operation) (snap : Snapshot),
      (Table.after history).contains key = true →
      (operation = .update key (.transition .idle) ∨ ∃ code, operation = .teardown key code) →
      (Table.after (history ++ [operation])).view.snapshot key = some snap → snap.Silent := by
  intro h
  let n : Neighbor := { peerAddress := .v4 ⟨10, 0, 0, 1⟩, localAs := 65000, peerAs := 65001, holdTime := 180 }
  let key := Key.ofNeighbor n
  let data : OpenData := { peerAs := 65001, routerId := ⟨192, 0, 2, 1⟩, holdTime := 90, capabilities := {},
                           families := {}, addPath := {} }
  let history : List Operation := [.add n, .update key (.opened data)]
  have htold : ((Table.after (history ++ [.teardown key 6])).view.snapshot key).bind (·.peerAs) = some 65001 := by
    decide
  obtain ⟨snap, hsnap, hpeerAs⟩ := Option.bind_eq_some_iff.mp htold
  have hsilent := h history key (.teardown key 6) snap (by decide) (.inr ⟨6, rfl⟩) hsnap
  rw [hsilent.peerAs] at hpeerAs
  cases hpeerAs

end RouteServer.Session
