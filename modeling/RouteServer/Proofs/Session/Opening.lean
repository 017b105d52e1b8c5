import RouteServer.Proofs.Address
import RouteServer.Proofs.Config.Declared
import RouteServer.Proofs.Keyed
import RouteServer.Session.Table

/-! # The table that a configuration opens

Neighbors of an accepted configuration have distinct addresses, and so have their keys. Each of them gets a
session of its own, and the table has no others.
-/

namespace RouteServer

/-! ## The blocks of a file -/

namespace Config.Grammar

/-- The addresses that the neighbor blocks of a file stand under. -/
def File.addresses (file : File) : List Value :=
  file.filterMap fun
    | .neighbor address _ => some address
    | _ => none

variable {file : File} {c : Configuration}

theorem File.Declares.addresses_eq (h : file.Declares c) :
    file.addresses.map (fun address => Address.parse? address.text) =
      c.neighbors.map (fun n => some n.peerAddress) := by
  induction h with
  | nil => rfl
  | separator file c hfile ih => simpa [File.addresses] using ih
  | block file c hfile name body families hname hbody ih => simpa [File.addresses] using ih
  | neighbor file c hfile address body n hbody haddress ih =>
    have hparse := hbody.address
    simpa [File.addresses, hparse] using ih

end Config.Grammar

theorem Families.IsDeclared.declarable {f : Families} (h : f.IsDeclared) : Declarable f.toList := by
  obtain ⟨pairs, hpairs, rfl⟩ := h
  exact declarable_toList hpairs

namespace Session

/-! ## Opening sessions -/

section

variable {t : Table} {ns : List Neighbor} {key : Key}

theorem addNeighbors_others :
    (t.addNeighbors ns).teardowns = t.teardowns ∧ (t.addNeighbors ns).now = t.now := by
  induction ns generalizing t with
  | nil => exact ⟨rfl, rfl⟩
  | cons n rest ih => exact ih

theorem get?_addNeighbors_of_ne (h : ∀ n ∈ ns, Key.ofNeighbor n ≠ key) :
    (t.addNeighbors ns).entries.get? key = t.entries.get? key := by
  induction ns generalizing t with
  | nil => rfl
  | cons n rest ih =>
    obtain ⟨hn, hrest⟩ := List.forall_mem_cons.mp h
    have hadd : (t.addNeighbor n).entries.get? key = t.entries.get? key := by
      rw [Table.addNeighbor, Keyed.get?_insert, if_neg (Ne.symm hn)]
    exact (ih hrest).trans hadd

theorem get?_addNeighbors_of_mem (hdistinct : (ns.map Key.ofNeighbor).Nodup) {n : Neighbor} (hn : n ∈ ns) :
    (t.addNeighbors ns).entries.get? (Key.ofNeighbor n) = some ⟨n, { changedAt := t.now }⟩ := by
  induction ns generalizing t with
  | nil => cases hn
  | cons first rest ih =>
    obtain ⟨hfirst, hrest⟩ := List.nodup_cons.mp hdistinct
    rcases List.mem_cons.mp hn with rfl | hn
    · have hothers : ∀ m ∈ rest, Key.ofNeighbor m ≠ Key.ofNeighbor n := fun m hm heq =>
        hfirst (heq ▸ List.mem_map_of_mem hm)
      have hadd : (t.addNeighbor n).entries.get? (Key.ofNeighbor n) = some ⟨n, { changedAt := t.now }⟩ := by
        rw [Table.addNeighbor, Keyed.get?_insert, if_pos rfl]
      exact (get?_addNeighbors_of_ne hothers).trans hadd
    · exact ih hrest hn

end

variable {c : Configuration}

theorem get?_ofConfiguration (hdistinct : (c.neighbors.map Key.ofNeighbor).Nodup) {key : Key} {e : Entry} :
    (Table.ofConfiguration c).entries.get? key = some e ↔
      ∃ n ∈ c.neighbors, Key.ofNeighbor n = key ∧ e = ⟨n, { changedAt := 0 }⟩ := by
  constructor
  · intro h
    by_cases hkey : ∃ n ∈ c.neighbors, Key.ofNeighbor n = key
    · obtain ⟨n, hn, rfl⟩ := hkey
      have hfresh := get?_addNeighbors_of_mem (t := {}) hdistinct hn
      exact ⟨n, hn, rfl, Option.some.inj (h.symm.trans hfresh)⟩
    · have hnone := get?_addNeighbors_of_ne (t := {}) fun n hn heq => hkey ⟨n, hn, heq⟩
      cases h.symm.trans hnone
  · rintro ⟨n, hn, rfl, rfl⟩
    exact get?_addNeighbors_of_mem hdistinct hn

theorem keys_ofConfiguration (hdistinct : (c.neighbors.map Key.ofNeighbor).Nodup) :
    (Table.ofConfiguration c).entries.keys.Perm (c.neighbors.map Key.ofNeighbor) := by
  rw [List.perm_ext_iff_of_nodup (Keyed.keys_nodup _) hdistinct]
  intro key
  rw [Keyed.mem_keys_iff, List.mem_map]
  constructor
  · rintro ⟨e, he⟩
    obtain ⟨n, hn, hkey, -⟩ := (get?_ofConfiguration hdistinct).mp he
    exact ⟨n, hn, hkey⟩
  · rintro ⟨n, hn, hkey⟩
    exact ⟨_, (get?_ofConfiguration hdistinct).mpr ⟨n, hn, hkey, rfl⟩⟩

theorem size_ofConfiguration (hdistinct : (c.neighbors.map Key.ofNeighbor).Nodup) :
    (Table.ofConfiguration c).size = c.neighbors.length := by
  have hlength := (keys_ofConfiguration hdistinct).length_eq
  rw [Keyed.keys, List.length_map, List.length_map] at hlength
  exact hlength

/-- Neighbors with distinct addresses have distinct keys, whichever local addresses they have. -/
theorem keys_distinct (h : c.neighbors.Pairwise fun a b => a.peerAddress ≠ b.peerAddress) :
    (c.neighbors.map Key.ofNeighbor).Nodup := by
  rw [List.nodup_iff_pairwise_ne, List.pairwise_map]
  exact h.imp fun hne heq => hne (congrArg Key.peerAddress heq)

/-! ## The sessions of a configuration -/

/-- The session of a neighbor, and what the table shows of it. It stands under the local address of the
neighbor, or the unspecified one of the version of its peer, and it is fresh. -/
structure HasSession (t : Table) (n : Neighbor) (key : Key) : Prop where
  peerAddress : key.peerAddress = n.peerAddress
  localAddress : key.localAddress = n.localAddress.getD n.peerAddress.unspecifiedLike
  listed : key ∈ t.view.keys
  name : t.view.name key = some n.name
  address : t.view.address key = some n.peerAddress
  entry : t.entries.get? key = some ⟨n, { fsm := .idle, changedAt := t.now, remote := none, messages := {} }⟩

theorem hasSession_ofConfiguration (hdistinct : (c.neighbors.map Key.ofNeighbor).Nodup) {n : Neighbor}
    (hn : n ∈ c.neighbors) : HasSession (Table.ofConfiguration c) n (Key.ofNeighbor n) := by
  have hentry := (get?_ofConfiguration hdistinct).mpr ⟨n, hn, rfl, rfl⟩
  have hnow : (Table.ofConfiguration c).now = 0 := addNeighbors_others.2
  exact
    { peerAddress := rfl
      localAddress := rfl
      listed := Keyed.mem_keys_iff.mpr ⟨_, hentry⟩
      name := by simp only [Table.view, hentry, Option.map_some]
      address := by simp only [Table.view, hentry, Option.map_some]
      entry := hnow ▸ hentry }

theorem idle_of_ofConfiguration (hdistinct : (c.neighbors.map Key.ofNeighbor).Nodup) {key : Key}
    {s : Snapshot} (hs : (Table.ofConfiguration c).view.snapshot key = some s) : s.fsm = .idle := by
  obtain ⟨e, he, rfl⟩ := Option.map_eq_some_iff.mp hs
  obtain ⟨n, -, -, rfl⟩ := (get?_ofConfiguration hdistinct).mp he
  rfl

/-- What an accepted text opens: its neighbors have distinct addresses, its families are implemented and none is
listed twice, and there is a fresh session for each of its neighbor blocks, under the key of the neighbor. -/
structure Opens (text : String) (c : Configuration) (t : Table) : Prop where
  addresses : c.neighbors.Pairwise fun a b => a.peerAddress ≠ b.peerAddress
  blocks : ∀ block ∈ c.blocks, Families.Declarable block.2.toList
  families : ∀ n ∈ c.neighbors, Families.Declarable n.families.toList
  size : ∃ tokens, ∃ file : Config.Grammar.File, Config.tokenize text = .ok tokens ∧
    tokens.map (·.kind) = file.kinds ∧ file.Declares c ∧ t.size = file.addresses.length
  sessions : ∀ n ∈ c.neighbors, ∃ key, HasSession t n key
  keys : t.view.keys.Pairwise fun a b => compare a b = .lt
  others : ∀ key ∈ t.view.keys, ∃ n ∈ c.neighbors, HasSession t n key
  idle : ∀ key s, t.view.snapshot key = some s → s.fsm = .idle
  teardowns : t.takeTeardowns.1 = []

theorem one_session_per_neighbor {text : String} {c : Configuration}
    (h : Configuration.parse text = .ok c) : Opens text c (Table.ofConfiguration c) := by
  have hdeclared := Configuration.isDeclared_of_parse h
  have hdistinct := keys_distinct hdeclared.addresses
  obtain ⟨tokens, file, htokens, hkinds, hfile⟩ := Configuration.exists_file_of_parse h
  exact
    { addresses := hdeclared.addresses
      blocks := fun block hblock => (hfile.blocks_declared block hblock).declarable
      families := fun n hn => (hdeclared.neighbors n hn).families.declarable
      size := by
        refine ⟨tokens, file, htokens, hkinds, hfile, (size_ofConfiguration hdistinct).trans ?_⟩
        simpa using (congrArg List.length hfile.addresses_eq).symm
      sessions := fun n hn => ⟨_, hasSession_ofConfiguration hdistinct hn⟩
      keys := List.pairwise_map.mpr (Table.ofConfiguration c).entries.sorted
      others := by
        intro key hkey
        obtain ⟨n, hn, rfl⟩ := List.mem_map.mp ((keys_ofConfiguration hdistinct).mem_iff.mp hkey)
        exact ⟨n, hn, hasSession_ofConfiguration hdistinct hn⟩
      idle := fun key s => idle_of_ofConfiguration hdistinct
      teardowns := congrArg Keyed.toList addNeighbors_others.1 }

theorem sessions_of_two_neighbors :
    let text := "neighbor 10.0.0.2 \x7b local-address 10.0.0.1 local-as 65000 peer-as 65001 \x7d" ++
      "neighbor 2001:db8::1 \x7b local-as 65000 peer-as 65001 family \x7b ipv6 unicast \x7d \x7d"
    let n : Neighbor := { peerAddress := .v4 ⟨10, 0, 0, 2⟩, localAddress := some (.v4 ⟨10, 0, 0, 1⟩),
                          localAs := 65000, peerAs := 65001, holdTime := 180 }
    let m : Neighbor := { peerAddress := .v6 ⟨#v[0x2001, 0xdb8, 0, 0, 0, 0, 0, 1]⟩, localAs := 65000,
                          peerAs := 65001, holdTime := 180, families := .ofList [⟨.ipv6, .unicast⟩] }
    let c := Configuration.ofNeighbors [n, m]
    Configuration.parse text = .ok c ∧ Opens text c (Table.ofConfiguration c) := by
  intro text n m c
  have hparse : Configuration.parse text = .ok c := toOption_eq_some_iff.mp (by decide +kernel)
  exact ⟨hparse, one_session_per_neighbor hparse⟩

end Session

end RouteServer
