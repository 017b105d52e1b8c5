import Mathlib.Data.List.Forall2
import RouteServer.Proofs.Family
import RouteServer.Proofs.Report.Objects

/-! # Snapshots from their reports

The report for programs loses nothing: from the object of a session its snapshot is made again, so that two lists
of snapshots never have the same text.
-/

namespace RouteServer

/-! ## Maps by their keys -/

namespace Keyed

variable {κ : Type u} {β : Type v} [Ord κ] [Std.TransOrd κ]

/-- The map of what is found for some keys. -/
def collect (keys : List κ) (find? : κ → Option β) : Keyed κ β :=
  .ofList (keys.filterMap fun k => (find? k).map (k, ·))

theorem collect_eq [Std.LawfulEqOrd κ] [DecidableEq κ] {m : Keyed κ β} {keys : List κ}
    {find? : κ → Option β} (hkeys : keys.Nodup) (hall : ∀ k ∈ m.keys, k ∈ keys)
    (hfind : ∀ k ∈ keys, find? k = m.get? k) : collect keys find? = m := by
  have hnames : (keys.filterMap fun k => (find? k).map (k, ·)).map (·.1) =
      keys.filter fun k => (find? k).isSome := by
    clear hkeys hall hfind
    induction keys with
    | nil => rfl
    | cons k rest ih => cases h : find? k <;> simp [h, ih]
  have hnodup : ((keys.filterMap fun k => (find? k).map (k, ·)).map (·.1)).Nodup :=
    hnames ▸ hkeys.filter _
  refine ext_get? fun k => Option.ext fun v => ?_
  rw [collect, get?_ofList hnodup]
  simp only [List.mem_filterMap, Option.map_eq_some_iff, Prod.mk.injEq]
  constructor
  · rintro ⟨k', hk', v', hv', rfl, rfl⟩
    rw [← hfind k' hk', hv']
  · intro hv
    have hk : k ∈ keys := hall k (mem_keys_iff.mpr ⟨v, hv⟩)
    exact ⟨k, hk, v, (hfind k hk).trans hv, rfl, rfl⟩

end Keyed

theorem Family.all_nodup : all.Nodup := by decide

namespace Report

open Session Json

/-! ## Records of snapshots -/

namespace Record

theorem get?_perFamily_eq_some_iff {α : Type} {s : Snapshot} {f : FamilyState → α} {name : String} {a : α} :
    (perFamily s f).get? name = some a ↔
      ∃ p state, s.families.get? p = some state ∧ p.render = name ∧ f state = a := by
  have hrecord : perFamily s f = .ofList (s.families.toList.map fun e => (e.1.render, f e.2)) := rfl
  have hnodup : ((s.families.toList.map fun e => (e.1.render, f e.2)).map (·.1)).Nodup := by
    rw [List.map_map]
    refine List.pairwise_map.mpr (s.families.sorted.imp fun hlt heq => ?_)
    exact Keyed.ne_of_compare_lt hlt (Family.render_inj.mp heq)
  rw [hrecord, Keyed.get?_ofList hnodup]
  simp only [List.mem_map, Prod.exists, Prod.mk.injEq, Keyed.get?_eq_some_iff]

theorem get?_perFamily {α : Type} (s : Snapshot) (f : FamilyState → α) (p : Family) :
    (perFamily s f).get? p.render = (s.families.get? p).map f := by
  refine Option.ext fun a => ?_
  rw [get?_perFamily_eq_some_iff, Option.map_eq_some_iff]
  constructor
  · rintro ⟨q, state, hstate, hname, rfl⟩
    obtain rfl := Family.render_inj.mp hname
    exact ⟨state, hstate, rfl⟩
  · rintro ⟨state, hstate, rfl⟩
    exact ⟨p, state, hstate, rfl, rfl⟩

/-! ## Putting both sides together -/

def capabilityStates (r : Record) : Keyed String Capability :=
  .collect r.ours.capabilities.keys fun name => do
    return { ours := ← r.ours.capabilities.get? name, theirs := ← r.theirs.capabilities.get? name }

def familyStates (r : Record) : Keyed Family FamilyState :=
  .collect Family.all fun p => do
    return { ours := ← r.ours.families.get? p.render, theirs := ← r.theirs.families.get? p.render,
             sends := ← r.ours.addPath.get? p.render, receives := ← r.theirs.addPath.get? p.render }

def counters (r : Record) : Keyed String Counter :=
  .collect r.sent.keys fun name => do
    return { sent := ← r.sent.get? name, received := ← r.received.get? name }

def fsm? (text : String) : Option FsmState := FsmState.all.find? fun fsm => fsm.render = text

def uptime? (label : String) (seconds : Nat) : Option Uptime :=
  [Uptime.up seconds, Uptime.down seconds].find? fun uptime => uptime.label = label

/-- The snapshot that a record shows. -/
def snapshot? (r : Record) : Option Snapshot := do
  return {
    localAddress := r.ours.address
    peerAddress := r.theirs.address
    localAs := ← r.ours.asNumber
    peerAs := r.theirs.asNumber
    localId := ← r.ours.id
    peerId := r.theirs.id
    localHold := ← r.ours.hold
    peerHold := r.theirs.hold
    fsm := ← fsm? r.fsm
    uptime := ← uptime? r.state r.duration
    capabilities := r.capabilityStates
    families := r.familyStates
    messages := r.counters }

theorem keys_mapEntries {β γ : Type} (m : Keyed String β) (f : String → β → γ) :
    (m.mapEntries f).keys = m.keys := by
  simp [Keyed.keys, Keyed.mapEntries]

theorem capabilityStates_ofSnapshot (s : Snapshot) : (ofSnapshot s).capabilityStates = s.capabilities := by
  simp only [capabilityStates, ofSnapshot, keys_mapEntries, Keyed.get?_mapEntries]
  refine Keyed.collect_eq s.capabilities.keys_nodup (fun _ hk => hk) fun name _ => ?_
  cases s.capabilities.get? name <;> rfl

theorem familyStates_ofSnapshot (s : Snapshot) : (ofSnapshot s).familyStates = s.families := by
  simp only [familyStates, ofSnapshot, get?_perFamily]
  refine Keyed.collect_eq Family.all_nodup (fun p _ => p.mem_all) fun p _ => ?_
  cases s.families.get? p <;> rfl

theorem counters_ofSnapshot (s : Snapshot) : (ofSnapshot s).counters = s.messages := by
  simp only [counters, ofSnapshot, keys_mapEntries, Keyed.get?_mapEntries]
  refine Keyed.collect_eq s.messages.keys_nodup (fun _ hk => hk) fun name _ => ?_
  cases s.messages.get? name <;> rfl

theorem fsm?_render (fsm : FsmState) : fsm? fsm.render = some fsm := by
  cases fsm <;> decide

theorem uptime?_label (uptime : Uptime) : uptime? uptime.label uptime.seconds = some uptime := by
  cases uptime <;> rfl

theorem snapshot?_ofSnapshot (s : Snapshot) : (ofSnapshot s).snapshot? = some s := by
  simp only [snapshot?, capabilityStates_ofSnapshot, familyStates_ofSnapshot, counters_ofSnapshot]
  simp [ofSnapshot, fsm?_render, uptime?_label]

end Record

/-! ## Objects of snapshots -/

/-- The snapshot that an object of the report shows. -/
def snapshotOf? (object : Value) : Option Snapshot := (Record.ofValue? object).bind Record.snapshot?

/-- What the object of a session says of its snapshot. The whole snapshot is made from it again. Besides, its lists
name what both ends have announced, and its modes say for each family in which directions several paths go. -/
structure Tells (object : Value) (s : Snapshot) : Prop where
  rebuilt : snapshotOf? object = some s
  capabilities : ∃ names, object.field? (Value.items? Value.text?) "capabilities" = some names ∧ names.Nodup ∧
    ∀ name, name ∈ names ↔
      ∃ c, s.capabilities.get? name = some c ∧ c.ours = some true ∧ c.theirs = some true
  families : ∃ names, object.field? (Value.items? Value.text?) "families" = some names ∧ names.Nodup ∧
    ∀ name, name ∈ names ↔
      ∃ p state, s.families.get? p = some state ∧ p.render = name ∧ state.ours = true ∧ state.theirs = true
  addPath : ∃ modes, object.field? (Value.keyed? Value.text?) "add-path" = some modes ∧
    ∀ name text, modes.get? name = some text ↔
      ∃ p state, s.families.get? p = some state ∧ p.render = name ∧
        ∃ mode : AddPath, mode.sends = state.sends ∧ mode.receives = state.receives ∧ mode.render = text

theorem field?_capabilities (r : Record) :
    r.toValue.field? (Value.items? Value.text?) "capabilities" = some r.capabilities := by
  simp [Record.toValue, Value.field?, Decodes.strings r.capabilities]

theorem field?_families (r : Record) :
    r.toValue.field? (Value.items? Value.text?) "families" = some r.families := by
  simp [Record.toValue, Value.field?, Decodes.strings r.families]

theorem field?_addPath (r : Record) :
    r.toValue.field? (Value.keyed? Value.text?) "add-path" = some r.addPath := by
  simp [Record.toValue, Value.field?, Decodes.text.keyed r.addPath]

theorem mem_capabilities {s : Snapshot} {name : String} : name ∈ (Record.ofSnapshot s).capabilities ↔
    ∃ c, s.capabilities.get? name = some c ∧ c.ours = some true ∧ c.theirs = some true := by
  rw [Record.ofSnapshot, Keyed.mem_map_filter]
  simp [Capability.both]

theorem mem_families {s : Snapshot} {name : String} : name ∈ (Record.ofSnapshot s).families ↔
    ∃ p state, s.families.get? p = some state ∧ p.render = name ∧ state.ours = true ∧ state.theirs = true := by
  simp only [Record.ofSnapshot, List.mem_map, List.mem_filter, Prod.exists, FamilyState.both,
    Bool.and_eq_true, Keyed.get?_eq_some_iff]
  constructor
  · rintro ⟨p, state, ⟨hmem, hboth⟩, rfl⟩
    exact ⟨p, state, hmem, rfl, hboth⟩
  · rintro ⟨p, state, hmem, rfl, hboth⟩
    exact ⟨p, state, ⟨hmem, hboth⟩, rfl⟩

theorem capabilities_nodup (s : Snapshot) : (Record.ofSnapshot s).capabilities.Nodup :=
  s.capabilities.keys_nodup.sublist (List.filter_sublist.map _)

theorem families_nodup (s : Snapshot) : (Record.ofSnapshot s).families.Nodup := by
  refine List.pairwise_map.mpr ((s.families.sorted.filter _).imp fun hlt heq => ?_)
  exact Keyed.ne_of_compare_lt hlt (Family.render_inj.mp heq)

theorem ofFlags_eq_iff {sends receives : Bool} {mode : AddPath} :
    AddPath.ofFlags sends receives = mode ↔ mode.sends = sends ∧ mode.receives = receives := by
  cases sends <;> cases receives <;> cases mode <;> decide

theorem get?_addPath {s : Snapshot} {name text : String} :
    (Record.ofSnapshot s).addPath.get? name = some text ↔
      ∃ p state, s.families.get? p = some state ∧ p.render = name ∧
        ∃ mode : AddPath, mode.sends = state.sends ∧ mode.receives = state.receives ∧ mode.render = text := by
  rw [Record.ofSnapshot, Record.get?_perFamily_eq_some_iff]
  constructor
  · rintro ⟨p, state, hstate, hname, htext⟩
    obtain ⟨hsends, hreceives⟩ := ofFlags_eq_iff.mp (rfl : _ = state.addPath)
    exact ⟨p, state, hstate, hname, _, hsends, hreceives, htext⟩
  · rintro ⟨p, state, hstate, hname, mode, hsends, hreceives, rfl⟩
    have hmode : state.addPath = mode := ofFlags_eq_iff.mpr ⟨hsends, hreceives⟩
    exact ⟨p, state, hstate, hname, congrArg AddPath.render hmode⟩

theorem snapshotOf?_ofSnapshot (s : Snapshot) : snapshotOf? (Record.ofSnapshot s).toValue = some s := by
  rw [snapshotOf?, Record.decodes_toValue, Option.bind_some, Record.snapshot?_ofSnapshot]

theorem tells_ofSnapshot (s : Snapshot) : Tells (Record.ofSnapshot s).toValue s where
  rebuilt := snapshotOf?_ofSnapshot s
  capabilities := ⟨_, field?_capabilities _, capabilities_nodup s, fun _ => mem_capabilities⟩
  families := ⟨_, field?_families _, families_nodup s, fun _ => mem_families⟩
  addPath := ⟨_, field?_addPath _, fun _ _ => get?_addPath⟩

/-- The report is read as an array of objects, one for each snapshot in their order, and each object tells its
snapshot. Different lists of snapshots have different reports. -/
theorem json_loses_nothing (snapshots : List Snapshot) :
    ControlFree (json snapshots).toList ∧
      (∃ objects, read (json snapshots) = some (.array objects) ∧ (Value.array objects).Exact ∧
        List.Forall₂ Tells objects snapshots) ∧
      ∀ others, json snapshots = json others ↔ snapshots = others := by
  have hread : ∀ snapshots, read (json snapshots) =
      some (.array (snapshots.map fun s => (Record.ofSnapshot s).toValue)) := fun snapshots =>
    (exact_objects snapshots).read_render
  have hexact := exact_objects snapshots
  refine ⟨hexact.controlFree, ⟨_, hread snapshots, hexact, ?_⟩, fun others => ?_⟩
  · exact List.forall₂_map_left_iff.mpr (List.forall₂_same.mpr fun s _ => tells_ofSnapshot s)
  · constructor
    · intro heq
      have hobjects := Value.array.inj (Option.some.inj ((hread snapshots).symm.trans (heq ▸ hread others)))
      exact (eq_iff_of_read (Decodes.mapM snapshotOf?_ofSnapshot)).mp hobjects
    · rintro rfl
      rfl

end Report

end RouteServer
