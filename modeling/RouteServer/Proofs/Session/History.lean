import RouteServer.Proofs.Address
import RouteServer.Proofs.Session.Course

/-! # Histories of a table

A table begins empty. Then neighbors are added, events are applied, sessions are torn down, requests are taken
and time passes, in any order. Apart from the clock, what stands under a key depends on the neighbor that was
added last under this key and on what has happened to its session since, and on nothing else.
-/

namespace RouteServer.Session

/-! ## Operations -/

inductive Operation where
  | add (neighbor : Neighbor)
  | update (key : Key) (event : Event)
  | teardown (key : Key) (code : UInt32)
  | takeTeardowns
  | advance (milliseconds : Nat)
deriving DecidableEq

/-- What an operation is to the session under a key. To be torn down is to become idle. -/
def Operation.eventFor (key : Key) : Operation → Option Event
  | update k event => if k = key then some event else none
  | teardown k _ => if k = key then some (.transition .idle) else none
  | add _ | takeTeardowns | advance _ => none

namespace Table

def perform (t : Table) : Operation → Table
  | .add n => t.addNeighbor n
  | .update key event => t.update key event
  | .teardown key code => t.teardown key code
  | .takeTeardowns => t.takeTeardowns.2
  | .advance milliseconds => t.advance milliseconds

/-- The table that a history leaves. -/
def after (history : List Operation) : Table := history.foldl perform {}

theorem after_append (early late : List Operation) :
    after (early ++ late) = late.foldl perform (after early) := List.foldl_append ..

theorem after_concat (history : List Operation) (operation : Operation) :
    after (history ++ [operation]) = (after history).perform operation := after_append ..

end Table

/-! ## One key -/

/-- The histories in which `n` is the neighbor that was added last under a key, with what has happened to
its session since. -/
inductive Lived (key : Key) (n : Neighbor) : List Operation → List Event → Prop
  | intro (before since : List Operation) (hkey : Key.ofNeighbor n = key)
    (hlast : ∀ m, .add m ∈ since → Key.ofNeighbor m ≠ key) :
    Lived key n (before ++ .add n :: since) (since.filterMap (Operation.eventFor key))

variable {key : Key} {n : Neighbor} {history : List Operation} {events : List Event} {operation : Operation}

theorem Lived.concat (h : Lived key n history events)
    (hother : ∀ m, operation = .add m → Key.ofNeighbor m ≠ key) :
    Lived key n (history ++ [operation]) (events ++ (operation.eventFor key).toList) := by
  obtain ⟨before, since, hkey, hlast⟩ := h
  have hlast' : ∀ m, .add m ∈ since ++ [operation] → Key.ofNeighbor m ≠ key := by
    intro m hm
    rcases List.mem_append.mp hm with hm | hm
    · exact hlast m hm
    · exact hother m (List.mem_singleton.mp hm).symm
  have hevents : (since ++ [operation]).filterMap (Operation.eventFor key) =
      since.filterMap (Operation.eventFor key) ++ (operation.eventFor key).toList := by
    rw [List.filterMap_append]
    cases h : operation.eventFor key <;> simp [h]
  rw [← hevents, List.append_assoc, List.cons_append]
  exact .intro before (since ++ [operation]) hkey hlast'

theorem get?_perform (t : Table) (hother : ∀ m, operation = .add m → Key.ofNeighbor m ≠ key) :
    (t.perform operation).entries.get? key = (t.entries.get? key).map fun e =>
      { e with state := (operation.eventFor key).elim e.state (e.state.apply t.now) } := by
  have hmodify : ∀ (k : Key) (event : Event),
      (t.entries.modify k fun e => { e with state := e.state.apply t.now event }).get? key =
        (t.entries.get? key).map fun e =>
          { e with state := (if k = key then some event else none).elim e.state (e.state.apply t.now) } := by
    intro k event
    rw [Keyed.get?_modify]
    by_cases hk : k = key
    · simp [hk]
    · simp [hk, Ne.symm hk]
  cases operation with
  | add m =>
    have hne := (hother m rfl).symm
    simp [Table.perform, Table.addNeighbor, Keyed.get?_insert, hne, Operation.eventFor]
  | update k event => exact hmodify k event
  | teardown k code =>
    simp only [Table.perform, Table.teardown, Operation.eventFor]
    split
    · exact hmodify k (.transition .idle)
    · rename_i hunknown
      by_cases hk : k = key
      · subst hk
        rw [Option.not_isSome_iff_eq_none.mp hunknown]
        rfl
      · simp [hk]
  | takeTeardowns => simp [Table.perform, Table.takeTeardowns, Operation.eventFor]
  | advance milliseconds => simp [Table.perform, Table.advance, Operation.eventFor]

theorem get?_foldl_perform {t : Table} {e : Entry} {since : List Operation}
    (he : t.entries.get? key = some e) (hlast : ∀ m, .add m ∈ since → Key.ofNeighbor m ≠ key) :
    ∃ s : State, (since.foldl Table.perform t).entries.get? key = some ⟨e.neighbor, s⟩ ∧
      s.undated = (since.filterMap (Operation.eventFor key)).foldl (fun s event => s.apply 0 event)
        e.state.undated := by
  -- The sessions differ from the course in the moment of their last change only, which no event looks at.
  induction since generalizing t e with
  | nil => exact ⟨e.state, he, rfl⟩
  | cons operation rest ih =>
    have hstep := get?_perform t fun m (hm : operation = .add m) => hlast m (hm ▸ List.mem_cons_self)
    rw [he, Option.map_some] at hstep
    obtain ⟨s, hs, hundated⟩ := ih hstep fun m hm => hlast m (List.mem_cons_of_mem _ hm)
    refine ⟨s, hs, hundated.trans ?_⟩
    cases hevent : operation.eventFor key with
    | none => rw [List.filterMap_cons_none hevent, Option.elim_none]
    | some event =>
      rw [List.filterMap_cons_some hevent, List.foldl_cons, Option.elim_some, State.undated_apply]

/-- The session of a neighbor has gone through what has happened to it, and through nothing else. -/
theorem Lived.entry (h : Lived key n history events) :
    ∃ s : State, (Table.after history).entries.get? key = some ⟨n, s⟩ ∧
      s.undated = State.course events := by
  obtain ⟨before, since, hkey, hlast⟩ := h
  have hadd : ((Table.after before).addNeighbor n).entries.get? key =
      some ⟨n, { changedAt := (Table.after before).now }⟩ := by
    rw [Table.addNeighbor, Keyed.get?_insert, if_pos hkey.symm]
  rw [Table.after_append, List.foldl_cons]
  exact get?_foldl_perform hadd hlast

/-- A table has a session under the keys of the neighbors that were added, and under no other. -/
theorem contains_after : (Table.after history).contains key = true ↔ ∃ n events, Lived key n history events := by
  constructor
  · intro h
    induction history using List.reverseRecOn with
    | nil => cases h
    | append_singleton history operation ih =>
      by_cases hother : ∀ m, operation = .add m → Key.ofNeighbor m ≠ key
      · rw [Table.after_concat, Table.contains, Keyed.contains, get?_perform _ hother, Option.isSome_map] at h
        obtain ⟨n, events, hlived⟩ := ih h
        exact ⟨n, _, hlived.concat hother⟩
      · push Not at hother
        obtain ⟨n, rfl, hkey⟩ := hother
        exact ⟨n, _, .intro history [] hkey (by simp)⟩
  · rintro ⟨n, events, hlived⟩
    obtain ⟨s, hs, -⟩ := hlived.entry
    exact Keyed.contains_iff.mpr ⟨_, hs⟩

end RouteServer.Session
