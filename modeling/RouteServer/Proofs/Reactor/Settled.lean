import Mathlib.Data.List.Nodup
import RouteServer.Proofs.Channel.Reading
import RouteServer.Proofs.Reactor.Phases

/-! # Between two turns

Phases of a turn lose clients and leave work behind, and later phases clear it away. What a turn leaves is
settled: every client is connected and still has something to do or to say, and every task has a client of
its own.
-/

namespace RouteServer

open Channel Command Schedule

/-! ## One client -/

namespace Cell

variable {P σ : Type}

/-- One output at most is under way, and none without a client. -/
structure Owned (cell : Cell σ) : Prop where
  single : cell.outputs.length ≤ 1
  client : cell.client = none → cell.outputs = []

theorem Owned.of_client {cell next : Cell σ} {c : Client} (h : cell.Owned) (hc : next.client = some c)
    (houtputs : next.outputs = cell.outputs) : next.Owned where
  single := houtputs ▸ h.single
  client := fun hnone => nomatch hc.symm.trans hnone

theorem Owned.of_idle {cell : Cell σ} (houtputs : cell.outputs = []) : cell.Owned where
  single := by simp [houtputs]
  client := fun _ => houtputs

variable [OutputSequence σ] {registry : Registry P σ} {configuration : Configuration} {service : Service}
  {cell next : Cell σ} {traffic : Traffic}

theorem Owned.act (h : cell.Owned) (hact : Act registry configuration service cell traffic next) :
    next.Owned := by
  cases hact with
  | join hfree => exact h.of_client rfl rfl
  | read c pieces inputEnded closed hc hclosed => exact h.of_client rfl rfl
  | leave => exact .of_idle rfl
  | answer c line rest output hc hopen hidle hlines hresponse => exact h.of_client rfl rfl
  | schedule c line rest sequence hc hopen hidle hlines hbegins =>
    exact ⟨Nat.le_refl 1, fun hnone => nomatch hnone⟩
  | step c context hc hopen =>
    exact ⟨Nat.le_trans (List.length_filterMap_le _ _) h.single, fun hnone => nomatch hnone⟩
  | abandon hgone => exact .of_idle rfl
  | send c sent outbound closed hc hout hclosed => exact h.of_client rfl rfl

theorem Owned.acts (h : cell.Owned) (hacts : Acts registry configuration service cell traffic next) :
    next.Owned := by
  induction hacts with
  | refl cell => exact h
  | head hfirst hrest ih => exact ih (h.act hfirst)

end Cell

namespace Reactor

variable {P σ : Type} {r : Reactor P σ}

/-! ## Connections -/

/-- No client has lost its connection. -/
def Connected (r : Reactor P σ) : Prop :=
  ∀ service c, r.clients.client? service = some c → c.closed = false

theorem dropServices_resets {β : Type} (f : Reactor P σ → β) (reset : β) {other : Service}
    (hfirst : ∀ (r : Reactor P σ) service,
      f (r.dropService service).reactor = if other = service then reset else f r)
    (r : Reactor P σ) (services : List Service) :
    f (r.dropServices services).reactor = if other ∈ services then reset else f r := by
  induction services generalizing r with
  | nil => rfl
  | cons service rest ih =>
    rw [dropServices, ih]
    by_cases hmem : other ∈ rest
    · rw [if_pos hmem, if_pos (List.mem_cons_of_mem _ hmem)]
    · rw [if_neg hmem, hfirst]
      simp only [List.mem_cons, hmem, or_false]

theorem dropServices_client? (r : Reactor P σ) (services : List Service) (other : Service) :
    (r.dropServices services).reactor.clients.client? other =
      if other ∈ services then none else r.clients.client? other :=
  dropServices_resets (·.clients.client? other) none
    (fun r service => r.clients.remove_client? service other) r services

theorem dropServices_outputsOf (r : Reactor P σ) (services : List Service) (other : Service) :
    (r.dropServices services).reactor.scheduler.outputsOf other =
      if other ∈ services then [] else r.scheduler.outputsOf other :=
  dropServices_resets (·.scheduler.outputsOf other) []
    (fun r service => r.scheduler.outputsOf_cancelFor service other) r services

theorem Connected.dropServices (h : Connected r) (services : List Service) :
    Connected (r.dropServices services).reactor := by
  intro service c hc
  rw [dropServices_client?, Option.ite_none_left_eq_some] at hc
  exact h service c hc.2

theorem Connected.accept (h : Connected r) (n : Nat) : Connected (r.accept n).reactor := by
  induction n generalizing r with
  | zero => exact h
  | succ n ih =>
    refine ih fun service c hc => ?_
    have hjoined := r.clients.register_client? service
    rw [show r.clients.register.2.1.client? service = some c from hc] at hjoined
    split at hjoined
    · obtain rfl := Option.some.inj hjoined
      rfl
    · exact h service c hjoined.symm

theorem Connected.visit (h : Connected r) {operation : Service → Client → Clients.Progress}
    (hkept : ∀ service c, c.closed = false → (operation service c).failed = false →
      (operation service c).client.closed = false) :
    Connected (({ r with clients := (r.clients.visit operation).1 } : Reactor P σ).dropServices
      (r.clients.visit operation).2.1).reactor := by
  intro service c hc
  rw [dropServices_client?, Option.ite_none_left_eq_some, Clients.visit_client?,
    Option.map_eq_some_iff] at hc
  obtain ⟨hnamed, c', hc', rfl⟩ := hc
  refine hkept service c' (h service c' hc') (Bool.eq_false_iff.mpr fun hfailed => hnamed ?_)
  exact Clients.mem_visit_failed.mpr ⟨c', hc', hfailed⟩

theorem Connected.read (h : Connected r) (reads : Service → List ReadOutcome) :
    Connected (r.read reads).reactor :=
  h.visit fun service _ hopen hkept => (Clients.readClient_closed service hkept).trans hopen

theorem Connected.flush (h : Connected r) (writes : Service → List WriteOutcome) :
    Connected (r.flush writes).reactor :=
  h.visit fun service _ hopen hkept => (Clients.flushClient_closed service hkept).trans hopen

theorem Connected.deliver {clients : Clients}
    (h : ∀ service c, clients.client? service = some c → c.closed = false) (trace : Trace) :
    ∀ service c, (clients.deliver trace).client? service = some c → c.closed = false := by
  intro service c hc
  rw [Clients.deliver_client?, Option.map_eq_some_iff] at hc
  obtain ⟨c', hc', rfl⟩ := hc
  have hopen := h service c' hc'
  rw [if_neg (by simp [hopen])]
  exact hopen

theorem Connected.dispatchFor (h : Connected r) (service : Service) :
    Connected (r.dispatchFor service).reactor := by
  unfold Reactor.dispatchFor
  split
  · exact h
  · split
    · exact h
    · rename_i line clients hline
      obtain ⟨c, rest, hc, hopen, -, -, hclients⟩ := Clients.nextLine_eq_some _ _ hline
      refine Connected.deliver (fun other c' hc' => ?_) _
      rw [hclients] at hc'
      split at hc'
      · obtain rfl := Option.some.inj hc'
        exact hopen
      · exact h other c' hc'

theorem Connected.dispatchAll (h : Connected r) (services : List Service) :
    Connected (r.dispatchAll services).reactor := by
  induction services generalizing r with
  | nil => exact h
  | cons service rest ih => exact ih (h.dispatchFor service)

theorem Connected.intake (h : Connected r) (outside : Surroundings) :
    Connected (r.intake outside).reactor := by
  rw [intake_reactor]
  exact ((h.accept outside.arrivals).read outside.reads).dispatchAll _

/-! ## Clients and their tasks -/

/-- What the reactor is like between two turns. -/
structure Settled (r : Reactor P σ) : Prop where
  connected : r.Connected
  /-- Every task belongs to a client that is there. -/
  owned : ∀ t ∈ r.scheduler.queue, ∃ c, r.clients.client? t.service = some c
  single : (r.scheduler.queue.map (·.service)).Nodup
  /-- A client that will send no more, and to which nothing is to be sent, has a command or a task. -/
  needed : ∀ service c, r.clients.client? service = some c → c.inputEnded = true → c.lines = [] →
    c.outbound = [] → r.scheduler.isBusy service = true

theorem outputsOf_length (s : Scheduler σ) (service : Service) :
    (s.outputsOf service).length = (s.queue.map (·.service)).count service := by
  rw [Scheduler.outputsOf, List.length_map, List.count_eq_countP, List.countP_map,
    List.countP_eq_length_filter]
  rfl

theorem cells_owned_iff : (∀ service, (r.cell service).Owned) ↔
    (∀ t ∈ r.scheduler.queue, ∃ c, r.clients.client? t.service = some c) ∧
      (r.scheduler.queue.map (·.service)).Nodup := by
  have hidle : ∀ service, r.scheduler.outputsOf service = [] ↔
      ∀ t ∈ r.scheduler.queue, t.service ≠ service := by
    simp [Scheduler.outputsOf]
  rw [List.nodup_iff_count_le_one]
  constructor
  · intro h
    refine ⟨fun t ht => Option.ne_none_iff_exists'.mp fun hnone => ?_, fun service => ?_⟩
    · exact (hidle t.service).mp ((h t.service).client hnone) t ht rfl
    · rw [← outputsOf_length]
      exact (h service).single
  · rintro ⟨howned, hsingle⟩ service
    refine ⟨Nat.le_trans (Nat.le_of_eq (outputsOf_length ..)) (hsingle service), fun hnone => ?_⟩
    refine (hidle service).mpr fun t ht heq => ?_
    obtain ⟨c, hc⟩ := howned t ht
    rw [heq, show r.clients.client? service = none from hnone] at hc
    cases hc

theorem dropFinished_needed (r : Reactor P σ) (service : Service) (c : Client)
    (hc : r.dropFinished.reactor.clients.client? service = some c) (hended : c.inputEnded = true)
    (hlines : c.lines = []) (hout : c.outbound = []) :
    r.dropFinished.reactor.scheduler.isBusy service = true := by
  rw [dropFinished, dropServices_client?, Option.ite_none_left_eq_some] at hc
  obtain ⟨hstays, hc⟩ := hc
  have hfinished : service ∈ r.clients.finished :=
    Keyed.mem_map_filter.mpr ⟨c, hc, by simp [hended, hlines, hout]⟩
  have hbusy : r.scheduler.isBusy service = true := by
    simpa [hfinished] using hstays
  rw [← Bool.not_eq_false, Scheduler.isBusy_eq_false, dropFinished, dropServices_outputsOf, if_neg hstays,
    ← Scheduler.isBusy_eq_false, hbusy]
  exact Bool.noConfusion

theorem settled_start (registry : Registry P σ) (sessions : P) (configuration : Configuration) :
    Settled ({ registry, sessions, configuration } : Reactor P σ) where
  connected := fun _ _ hc => nomatch hc
  owned := by simp
  single := .nil
  needed := fun _ _ hc => nomatch hc

theorem Settled.await (h : Settled r) (round : Round P) : Settled (r.await round) :=
  ⟨h.connected, h.owned, h.single, h.needed⟩

/-! ## A turn -/

variable [OutputSequence σ] [Session.Provider P]

theorem Connected.tick (h : Connected r) : Connected r.tick.reactor := by
  unfold Reactor.tick
  split
  · exact h
  · exact Connected.deliver h _

theorem turn_reactor (r : Reactor P σ) (outside : Surroundings) : (r.turn outside).reactor =
    ((r.intake outside).reactor.tick.reactor.flush outside.writes).reactor.dropFinished.reactor := by
  simp only [turn, intake, Turn.andThen]

/-- A turn leaves the reactor settled if it has begun so. -/
theorem Settled.turn (h : Settled r) (outside : Surroundings) :
    Settled (r.turn outside).reactor := by
  have hcells := cells_owned_iff.mpr ⟨h.owned, h.single⟩
  obtain ⟨howned, hsingle⟩ := cells_owned_iff.mp fun service =>
    (hcells service).acts ((plays_course.turn r outside).acts service)
  have hflushed := ((h.connected.intake outside).tick).flush outside.writes
  rw [turn_reactor] at howned hsingle ⊢
  exact ⟨hflushed.dropServices _, howned, hsingle, dropFinished_needed _⟩

theorem Settled.run (h : Settled r) (rounds : List (Round P)) :
    Settled (r.run rounds).1 := by
  induction rounds generalizing r with
  | nil => exact h
  | cons round later ih =>
    rw [run_cons]
    exact ih ((h.await round).turn round.outside)

theorem Settled.connected_intake (h : Settled r) (outside : Surroundings) :
    ∀ t ∈ (r.intake outside).reactor.scheduler.queue,
      (r.intake outside).reactor.clients.isConnected t.service = true := by
  intro t ht
  have hcells := cells_owned_iff.mpr ⟨h.owned, h.single⟩
  obtain ⟨howned, -⟩ := cells_owned_iff.mp fun service =>
    (hcells service).acts ((plays_course.intake r outside).acts service)
  obtain ⟨c, hc⟩ := howned t ht
  exact Clients.isConnected_iff.mpr ⟨c, hc, h.connected.intake outside t.service c hc⟩

/-- After any turns the reactor is settled, and the next turn gives no step to a task without a client. -/
theorem settled_after_turns (registry : Registry P σ) (sessions : P) (configuration : Configuration)
    (rounds : List (Round P)) :
    let r := (({ registry, sessions, configuration } : Reactor P σ).run rounds).1
    Settled r ∧ ∀ round : Round P,
      let before := ((r.await round).intake round.outside).reactor
      ∀ t ∈ before.scheduler.queue, before.clients.isConnected t.service = true := by
  have hsettled := (settled_start registry sessions configuration).run rounds
  exact ⟨hsettled, fun round => (hsettled.await round).connected_intake round.outside⟩

end Reactor

end RouteServer
