import RouteServer.Proofs.Family
import RouteServer.Proofs.Session.History

/-! # What snapshots tell

A snapshot is put together from what is configured, what the peer has said and what has been counted. It tells
exactly that, whatever has happened to the sessions of other keys.
-/

namespace RouteServer.Session

/-! ## Families -/

/-- The families of both ends. Each has the flags of the ends that it comes from, and the directions of the peer. -/
structure MergesFamilies (n : Neighbor) (remote : Option OpenData) (m : Keyed Family FamilyState) : Prop where
  keys : ∀ f, f ∈ m.keys ↔
    f ∈ n.families.toList ∨ ∃ data ∈ remote, f ∈ data.families.keys ∨ f ∈ data.addPath.keys
  ours : ∀ f state, m.get? f = some state → (state.ours = true ↔ f ∈ n.families.toList)
  theirs : ∀ f state, m.get? f = some state →
    (state.theirs = true ↔ ∃ data ∈ remote, f ∈ data.families.keys)
  directions : ∀ f state, m.get? f = some state →
    let mode := (remote.bind (·.addPath.get? f)).getD .disabled
    state.sends = mode.sends ∧ state.receives = mode.receives

/-- What both ends say about a family. -/
def mergedFamily (n : Neighbor) (remote : Option OpenData) (f : Family) : FamilyState where
  ours := f ∈ n.families.toList
  theirs := remote.any fun data => f ∈ data.families.keys
  sends := ((remote.bind (·.addPath.get? f)).getD .disabled).sends
  receives := ((remote.bind (·.addPath.get? f)).getD .disabled).receives

theorem get?_families (n : Neighbor) (remote : Option OpenData) (f : Family) :
    (families n remote).get? f =
      if f ∈ n.families.toList ∨ f ∈ remote.elim [] (fun data => data.families.keys ++ data.addPath.keys) then
        some (mergedFamily n remote f)
      else none := by
  cases remote with
  | none =>
    have hget := Keyed.get?_ofList_map n.families.toList (fun _ => ({ ours := true } : FamilyState)) f
    by_cases hours : f ∈ n.families.toList <;>
      simp [families, mergedFamily, hget, hours, AddPath.sends, AddPath.receives]
  | some data =>
    let direct (mode : AddPath) (s : Option FamilyState) : FamilyState :=
      { s.getD {} with sends := mode.sends, receives := mode.receives }
    refine (Keyed.get?_foldl_upsert _ data.addPath direct f).trans ?_
    have hmodes : f ∈ data.addPath.keys ↔ (data.addPath.get? f).isSome = true := by
      rw [Keyed.mem_keys_iff, Option.isSome_iff_exists]
    rw [Keyed.get?_foldl_upsert_keys, Keyed.get?_ofList_map]
    by_cases hours : f ∈ n.families.toList <;> by_cases htheirs : f ∈ data.families.keys <;>
      cases hmode : data.addPath.get? f <;>
      simp [mergedFamily, hours, htheirs, hmodes, hmode, direct, AddPath.sends, AddPath.receives]

theorem families_merged (n : Neighbor) (remote : Option OpenData) :
    MergesFamilies n remote (families n remote) := by
  have hmem : ∀ f, f ∈ remote.elim [] (fun data => data.families.keys ++ data.addPath.keys) ↔
      ∃ data ∈ remote, f ∈ data.families.keys ∨ f ∈ data.addPath.keys := by
    intro f
    cases remote <;> simp
  have hget : ∀ f state, (families n remote).get? f = some state → state = mergedFamily n remote f := by
    intro f state h
    rw [get?_families, Option.ite_none_right_eq_some] at h
    exact (Option.some.inj h.2).symm
  constructor
  · intro f
    rw [Keyed.mem_keys_iff, get?_families, ← hmem]
    simp
  all_goals
    intro f state h
    rw [hget f state h]
    cases remote <;> simp [mergedFamily]

/-! ## Capabilities -/

/-- Whether we announce a capability. That of several protocols goes with configured families. -/
def Announces (n : Neighbor) (name : String) : Prop :=
  name = "asn4" ∨ name = "route-refresh" ∨ name = "multiprotocol" ∧ n.families.toList ≠ []

instance (n : Neighbor) (name : String) : Decidable (Announces n name) := inferInstanceAs (Decidable (_ ∨ _))

/-- Our three capabilities and those of the peer. Whether we announce one is always known, and whether the peer
does as soon as it has said something. -/
structure MergesCapabilities (n : Neighbor) (remote : Option OpenData) (m : Keyed String Capability) : Prop where
  keys : ∀ name, name ∈ m.keys ↔
    name ∈ ["asn4", "multiprotocol", "route-refresh"] ∨ ∃ data ∈ remote, name ∈ data.capabilities.keys
  ours : ∀ name c, m.get? name = some c → c.ours = some (decide (Announces n name))
  theirs : ∀ name c, m.get? name = some c →
    c.theirs = remote.map fun data => decide (name ∈ data.capabilities.keys)

theorem ownCapabilities_eq (n : Neighbor) : ownCapabilities n =
    ["asn4", "multiprotocol", "route-refresh"].map fun name => (name, decide (Announces n name)) := by
  have hempty : n.families.isEmpty = decide (n.families.toList = []) := by
    rw [Bool.eq_iff_iff, Families.isEmpty_iff, decide_eq_true_eq]
  simp [ownCapabilities, Announces, hempty]

theorem get?_capabilities (n : Neighbor) (remote : Option OpenData) (name : String) :
    (capabilities n remote).get? name =
      if name ∈ ["asn4", "multiprotocol", "route-refresh"] ∨
          name ∈ remote.elim [] (fun data => data.capabilities.keys) then
        some ⟨some (decide (Announces n name)), remote.map fun data => decide (name ∈ data.capabilities.keys)⟩
      else none := by
  have hcontains : ∀ (data : OpenData) (name : String),
      data.capabilities.contains name = decide (name ∈ data.capabilities.keys) := by
    intro data name
    rw [Bool.eq_iff_iff, decide_eq_true_iff, Keyed.contains_iff, Keyed.mem_keys_iff]
  cases remote with
  | none =>
    simp only [capabilities, ownCapabilities_eq, List.map_map, Function.comp_def, Keyed.get?_ofList_map]
    simp
  | some data =>
    simp only [capabilities, ownCapabilities_eq, List.map_map, Function.comp_def,
      Keyed.get?_foldl_upsert_keys, Keyed.get?_ofList_map]
    by_cases htheirs : name ∈ data.capabilities.keys
    · by_cases hours : name ∈ ["asn4", "multiprotocol", "route-refresh"]
      · simp [htheirs, hours, hcontains]
      · have hours' : ¬ Announces n name := by
          rintro (rfl | rfl | ⟨rfl, -⟩) <;> exact hours (by decide)
        simp [htheirs, hours, hours']
    · simp [htheirs, hcontains]

theorem capabilities_merged (n : Neighbor) (remote : Option OpenData) :
    MergesCapabilities n remote (capabilities n remote) := by
  have hmem : ∀ name, name ∈ remote.elim [] (fun data => data.capabilities.keys) ↔
      ∃ data ∈ remote, name ∈ data.capabilities.keys := by
    intro name
    cases remote <;> simp
  have hget : ∀ name c, (capabilities n remote).get? name = some c →
      c = ⟨some (decide (Announces n name)), remote.map fun data => decide (name ∈ data.capabilities.keys)⟩ := by
    intro name c h
    rw [get?_capabilities, Option.ite_none_right_eq_some] at h
    exact (Option.some.inj h.2).symm
  constructor
  · intro name
    rw [Keyed.mem_keys_iff, get?_capabilities, ← hmem]
    simp
  · rintro name c h
    rw [hget name c h]
  · rintro name c h
    rw [hget name c h]

/-! ## Messages -/

theorem get?_messages (s : State) (kind : MessageKind) :
    (messages s).get? kind.render = some ((s.messages.get? kind).getD {}) := by
  have hdistinct : (MessageKind.all.map MessageKind.render).Nodup := by decide
  rw [messages, Keyed.get?_ofList (by simpa [Function.comp_def] using hdistinct), List.mem_map]
  refine ⟨kind, ?_, rfl⟩
  cases kind <;> decide

theorem mem_keys_messages {s : State} {name : String} (h : name ∈ (messages s).keys) :
    ∃ kind : MessageKind, name = kind.render := by
  obtain ⟨kind, -, rfl⟩ : ∃ kind ∈ MessageKind.all, kind.render = name := by
    simpa using Keyed.mem_keys_ofList h
  exact ⟨kind, rfl⟩

/-! ## Snapshots -/

def Uptime.untimed : Uptime → Uptime
  | up _ => up 0
  | down _ => down 0

/-- A snapshot without the seconds since the session went up or down. -/
def Snapshot.untimed (snap : Snapshot) : Snapshot := { snap with uptime := snap.uptime.untimed }

theorem snapshot_untimed (now : Nat) (key : Key) (n : Neighbor) (s : State) :
    (snapshot now key n s).untimed = snapshot 0 key n s.undated := by
  have huptime : (s.uptime now).untimed = s.undated.uptime 0 := by
    simp only [State.uptime, State.undated, Nat.sub_self, Nat.zero_div]
    split <;> rfl
  rw [Snapshot.untimed, snapshot, huptime]
  rfl

theorem State.isUp_uptime (s : State) (now : Nat) : (s.uptime now).isUp = true ↔ s.fsm = .established := by
  rw [uptime]
  split
  · rename_i h
    exact iff_of_true rfl (of_decide_eq_true h)
  · rename_i h
    refine iff_of_false Bool.false_ne_true fun heq => h ?_
    exact decide_eq_true heq

/-- What a snapshot tells of the peer that has said `remote`. -/
structure Snapshot.ShowsPeer (snap : Snapshot) (n : Neighbor) (remote : Option OpenData) : Prop where
  peerAs : snap.peerAs = remote.map (·.peerAs)
  peerId : snap.peerId = remote.map (·.routerId)
  peerHold : snap.peerHold = remote.map (·.holdTime)
  families : MergesFamilies n remote snap.families
  capabilities : MergesCapabilities n remote snap.capabilities

/-- What a snapshot tells of a neighbor whose session has gone through `events`. -/
structure Snapshot.Shows (snap : Snapshot) (n : Neighbor) (events : List Event) : Prop where
  localAddress : snap.localAddress = n.localAddress.getD n.peerAddress.unspecifiedLike
  peerAddress : snap.peerAddress = n.peerAddress
  localAs : snap.localAs = n.localAs
  localId : snap.localId = n.routerId.getD
    (match snap.localAddress with
    | .v4 address => address
    | .v6 _ => .unspecified)
  localHold : snap.localHold = n.holdTime
  fsm : snap.fsm = fsmAfter events
  up : snap.uptime.isUp = true ↔ fsmAfter events = .established
  counters : ∀ kind : MessageKind, snap.messages.get? kind.render =
    some ⟨events.count (.sent kind), events.count (.received kind)⟩
  kinds : ∀ name ∈ snap.messages.keys, ∃ kind : MessageKind, name = kind.render
  peer : ∃ remote, (∀ data, remote = some data ↔ Retains events data) ∧ snap.ShowsPeer n remote

theorem snapshot_showsPeer (now : Nat) (key : Key) (n : Neighbor) (s : State) :
    (snapshot now key n s).ShowsPeer n s.remote :=
  ⟨rfl, rfl, rfl, families_merged n s.remote, capabilities_merged n s.remote⟩

theorem snapshot_shows {n : Neighbor} {s : State} {events : List Event} (now : Nat)
    (h : s.undated = State.course events) : (snapshot now (Key.ofNeighbor n) n s).Shows n events := by
  have hfsm : s.fsm = fsmAfter events := (congrArg State.fsm h).trans (State.fsm_course events)
  have hmessages : s.undated.messages = (State.course events).messages := by rw [h]
  have hremote : s.undated.remote = (State.course events).remote := by rw [h]
  constructor
  case localAddress => rfl
  case peerAddress => rfl
  case localAs => rfl
  case localId => rfl
  case localHold => rfl
  case fsm => exact hfsm
  case up => rw [← hfsm]; exact State.isUp_uptime s now
  case counters =>
    intro kind
    rw [← State.counter_course, ← hmessages]
    exact get?_messages s kind
  case kinds => exact fun name hname => mem_keys_messages hname
  case peer =>
    refine ⟨s.undated.remote, fun data => ?_, snapshot_showsPeer ..⟩
    rw [hremote]
    exact State.remote_course events data

theorem mem_established {t : Table} {key : Key} :
    key ∈ t.established ↔ ∃ e, t.entries.get? key = some e ∧ e.state.fsm = .established := by
  simp [Table.established, Keyed.mem_map_filter, FsmState.isEstablished]

/-! ## Histories -/

/-- What can be asked about a key, apart from the seconds since its session went up or down. -/
structure Told where
  snapshot : Option Snapshot
  established : Bool
  name : Option String
  address : Option Address

def Table.told (t : Table) (key : Key) : Told where
  snapshot := (t.view.snapshot key).map Snapshot.untimed
  established := key ∈ t.view.established
  name := t.view.name key
  address := t.view.address key

section

variable {key : Key} {n : Neighbor} {history : List Operation} {events : List Event}

theorem Lived.key_eq (h : Lived key n history events) : Key.ofNeighbor n = key := by
  obtain ⟨before, since, hkey, -⟩ := h
  exact hkey

theorem Lived.shown (h : Lived key n history events) :
    ∃ snap, (Table.after history).view.snapshot key = some snap ∧ snap.Shows n events := by
  obtain ⟨s, hs, hundated⟩ := h.entry
  obtain rfl := h.key_eq
  exact ⟨_, congrArg (Option.map _) hs, snapshot_shows _ hundated⟩

theorem Lived.mem_established (h : Lived key n history events) :
    key ∈ (Table.after history).view.established ↔ fsmAfter events = .established := by
  obtain ⟨s, hs, hundated⟩ := h.entry
  have hfsm : s.fsm = fsmAfter events := (congrArg State.fsm hundated).trans (State.fsm_course events)
  exact Session.mem_established.trans (by simp [hs, hfsm])

theorem Lived.told (h : Lived key n history events) :
    (Table.after history).told key = ⟨some (snapshot 0 key n (State.course events)),
      decide (fsmAfter events = .established), some n.name, some n.peerAddress⟩ := by
  obtain ⟨s, hs, hundated⟩ := h.entry
  have hsnapshot : ((Table.after history).view.snapshot key).map Snapshot.untimed =
      some (snapshot 0 key n (State.course events)) := by
    rw [← hundated, ← snapshot_untimed (Table.after history).now]
    exact congrArg (Option.map _) (congrArg (Option.map _) hs)
  have hname : (Table.after history).view.name key = some n.name := congrArg (Option.map _) hs
  have haddress : (Table.after history).view.address key = some n.peerAddress := congrArg (Option.map _) hs
  simp only [Table.told, hsnapshot, hname, haddress, h.mem_established]

end

/-- Snapshots are exact, and sessions do not touch each other. What is told about a key is what its own neighbor
and its own events make of it. -/
theorem told_by_own_history (history : List Operation) (key : Key) :
    ((Table.after history).contains key = true ↔ ∃ n events, Lived key n history events) ∧
      ∀ n events, Lived key n history events →
        (∃ snap, (Table.after history).view.snapshot key = some snap ∧ snap.Shows n events) ∧
        (key ∈ (Table.after history).view.established ↔ fsmAfter events = .established) ∧
        (Table.after history).view.name key = some n.name ∧
        (Table.after history).view.address key = some n.peerAddress ∧
        ∀ other, Lived key n other events → (Table.after other).told key = (Table.after history).told key := by
  refine ⟨contains_after, fun n events hlived => ?_⟩
  have htold := hlived.told
  refine ⟨hlived.shown, hlived.mem_established, congrArg Told.name htold, congrArg Told.address htold, ?_⟩
  intro other hother
  rw [htold, hother.told]

theorem told_beside_other_session :
    let n : Neighbor := { peerAddress := .v4 ⟨10, 0, 0, 1⟩, localAs := 65000, peerAs := 65001, holdTime := 180,
                          families := .ofList [⟨.ipv4, .unicast⟩] }
    let m : Neighbor := { peerAddress := .v4 ⟨10, 0, 0, 2⟩, localAs := 65000, peerAs := 65002, holdTime := 180 }
    let key := Key.ofNeighbor n
    let data : OpenData := { peerAs := 65001, routerId := ⟨192, 0, 2, 1⟩, holdTime := 90,
                             capabilities := .ofList [("asn4", ()), ("extended-message", ())],
                             families := .ofList [(⟨.ipv6, .unicast⟩, ())],
                             addPath := .ofList [(⟨.ipv4, .unicast⟩, .send)] }
    let history : List Operation :=
      [.update key (.sent .update), .add n, .add m, .update key (.opened data),
        .update (Key.ofNeighbor m) (.transition .established), .update key (.transition .established),
        .teardown (Key.ofNeighbor m) 6, .takeTeardowns, .update key (.sent .keepalive)]
    let events := [.opened data, .transition .established, .sent .keepalive]
    Lived key n history events ∧
      (∃ snap, (Table.after history).view.snapshot key = some snap ∧ snap.Shows n events) ∧
      key ∈ (Table.after history).view.established := by
  intro n m key data history events
  have hkey : Key.ofNeighbor m ≠ key := by decide
  have hlived : Lived key n history events := by
    refine .intro [.update key (.sent .update)] (history.drop 2) rfl fun other hother => ?_
    obtain rfl : other = m := by simpa [history] using hother
    exact hkey
  obtain ⟨hshown, hestablished, -⟩ := (told_by_own_history history key).2 n events hlived
  exact ⟨hlived, hshown, hestablished.mpr rfl⟩

end RouteServer.Session
