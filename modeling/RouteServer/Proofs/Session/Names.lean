import RouteServer.Proofs.Command.Teardown
import RouteServer.Proofs.Report.Lines

/-! # The names that a table holds

The only names in a table that the daemon has not chosen itself are those of the capabilities in OPEN messages.
If none of these has a line feed, no snapshot shows one.
-/

namespace RouteServer.Session

open Text

/-! ## What the protocol does -/

/-- What happens to the table between the steps of commands. -/
inductive Change where
  | event (key : Key) (event : Event)
  | advance (milliseconds : Nat)
  | takeTeardowns
deriving DecidableEq

def Change.apply (t : Table) : Change → Table
  | event key e => t.update key e
  | advance milliseconds => t.advance milliseconds
  | takeTeardowns => t.takeTeardowns.2

/-- The capabilities in an OPEN message have names without line feeds. -/
def OpenData.NamesUnbroken (data : OpenData) : Prop := ∀ name ∈ data.capabilities.keys, Unbroken name

instance (data : OpenData) : Decidable data.NamesUnbroken := inferInstanceAs (Decidable (∀ _ ∈ _, _))

def Change.NamesUnbroken : Change → Prop
  | event _ (.opened data) => data.NamesUnbroken
  | _ => True

instance : (c : Change) → Decidable c.NamesUnbroken
  | .event _ (.opened data) => inferInstanceAs (Decidable data.NamesUnbroken)
  | .event _ (.transition _) | .event _ (.sent _) | .event _ (.received _) | .advance _ | .takeTeardowns =>
    isTrue trivial

/-! ## What a table keeps -/

def State.NamesUnbroken (s : State) : Prop := ∀ data, s.remote = some data → data.NamesUnbroken

def Table.NamesUnbroken (t : Table) : Prop :=
  ∀ key e, t.entries.get? key = some e → e.state.NamesUnbroken

theorem State.NamesUnbroken.transition {s : State} (h : s.NamesUnbroken) (now : Nat) (target : FsmState) :
    (s.transition now target).NamesUnbroken := by
  unfold State.transition
  split
  · exact h
  · intro data hdata
    dsimp only at hdata
    split at hdata
    · cases hdata
    · exact h data hdata

theorem State.NamesUnbroken.apply {s : State} (h : s.NamesUnbroken) (now : Nat) {event : Event} {key : Key}
    (hevent : (Change.event key event).NamesUnbroken) : (s.apply now event).NamesUnbroken := by
  cases event with
  | transition target => exact h.transition now target
  | opened data => exact fun _ hdata => Option.some.inj hdata ▸ hevent
  | sent kind => exact h
  | received kind => exact h

namespace Table.NamesUnbroken

variable {t : Table} (h : t.NamesUnbroken)

theorem ofConfiguration (c : Configuration) : (Table.ofConfiguration c).NamesUnbroken := by
  have hadd : ∀ (ns : List Neighbor) (t : Table), t.NamesUnbroken → (t.addNeighbors ns).NamesUnbroken := by
    intro ns
    induction ns with
    | nil => exact fun t h => h
    | cons n rest ih =>
      refine fun t h => ih _ fun key e he => ?_
      rw [Table.addNeighbor, Keyed.get?_insert] at he
      split at he
      · obtain rfl := Option.some.inj he
        exact fun data hdata => nomatch hdata
      · exact h key e he
  exact hadd c.neighbors {} fun key e he => nomatch he

include h

theorem modify (key : Key) {f : State → State} (hf : ∀ s : State, s.NamesUnbroken → (f s).NamesUnbroken)
    {t' : Table} (hentries : t'.entries = t.entries.modify key fun e => { e with state := f e.state }) :
    t'.NamesUnbroken := by
  intro k e he
  rw [hentries, Keyed.get?_modify] at he
  split at he
  · obtain ⟨e', he', rfl⟩ := Option.map_eq_some_iff.mp he
    exact hf _ (h k e' he')
  · exact h k e he

theorem change {c : Change} (hc : c.NamesUnbroken) : (c.apply t).NamesUnbroken := by
  cases c with
  | event key event => exact h.modify key (fun s hs => hs.apply t.now hc) rfl
  | advance milliseconds => exact h
  | takeTeardowns => exact h

theorem changes {cs : List Change} (hcs : ∀ c ∈ cs, c.NamesUnbroken) :
    (cs.foldl Change.apply t).NamesUnbroken := by
  induction cs generalizing t with
  | nil => exact h
  | cons c rest ih =>
    obtain ⟨hc, hrest⟩ := List.forall_mem_cons.mp hcs
    exact ih (h.change hc) hrest

theorem teardown (key : Key) (code : UInt32) : (t.teardown key code).NamesUnbroken := by
  unfold Table.teardown
  split
  · exact h.modify key (fun s hs => hs.transition t.now .idle) rfl
  · exact h

end Table.NamesUnbroken

theorem Table.NamesUnbroken.run {t : Table} (h : t.NamesUnbroken) (r : Command.Teardown.Request) :
    (r.run t).1.NamesUnbroken := by
  intro key e he
  have hhandled := Command.Teardown.handled_run r t
  cases hpicks : r.picks t key with
  | true =>
    rw [(hhandled.torn key (Command.Teardown.mem_established_of_picks hpicks) hpicks).1] at he
    obtain ⟨e', -, rfl⟩ := Option.map_eq_some_iff.mp he
    exact fun data hdata => nomatch hdata
  | false =>
    rw [(hhandled.kept key fun _ => hpicks).1] at he
    exact h key e he

/-! ## What a snapshot shows -/

theorem unbroken_capabilities (n : Neighbor) {remote : Option OpenData}
    (h : ∀ data, remote = some data → data.NamesUnbroken) :
    ∀ name ∈ (capabilities n remote).keys, Unbroken name := by
  have hown : ∀ name ∈ (ownCapabilities n).map (·.1), Unbroken name := by
    simp only [ownCapabilities, List.map_cons, List.map_nil]
    decide
  have hours : ∀ entries : List (String × Capability),
      entries.map (·.1) = (ownCapabilities n).map (·.1) →
        ∀ name ∈ (Keyed.ofList entries).keys, Unbroken name := by
    intro entries hentries name hname
    exact hown name (hentries ▸ Keyed.mem_keys_ofList hname)
  unfold capabilities
  cases remote with
  | none => exact hours _ List.map_map
  | some data =>
    intro name hname
    rcases Keyed.mem_keys_foldl_upsert hname with hname | hname
    · exact h data rfl name hname
    · exact hours _ List.map_map name hname

theorem unbroken_messages (s : State) : ∀ name ∈ (messages s).keys, Unbroken name := by
  intro name hname
  have hall : ∀ kind ∈ MessageKind.all, Unbroken kind.render := by decide
  obtain ⟨entry, hentry, rfl⟩ := List.mem_map.mp (Keyed.mem_keys_ofList hname)
  obtain ⟨kind, hkind, rfl⟩ := List.mem_map.mp hentry
  exact hall kind hkind

theorem Table.NamesUnbroken.snapshot {t : Table} (h : t.NamesUnbroken) {key : Key} {s : Snapshot}
    (hs : t.snapshot? key = some s) : s.NamesUnbroken := by
  obtain ⟨e, he, rfl⟩ := Option.map_eq_some_iff.mp hs
  exact ⟨unbroken_capabilities e.neighbor (h key e he), unbroken_messages e.state⟩

end RouteServer.Session
