import RouteServer.Proofs.Channel.Clients
import RouteServer.Proofs.Reactor.Cell
import RouteServer.Proofs.Reactor.Course

/-! # What a turn does to each client

Every step of a turn is, for each client, a run of its cell.
-/

namespace RouteServer

open Channel Command Schedule

namespace Reactor

variable {P σ : Type}

def cell (r : Reactor P σ) (service : Service) : Cell σ where
  client := r.clients.client? service
  outputs := r.scheduler.outputsOf service
  given := service.number ≤ r.clients.lastId

variable [OutputSequence σ]

/-- What happens while the reactor goes from one state to another is a run of every cell. -/
structure Plays (r : Reactor P σ) (trace : Trace) (next : Reactor P σ) : Prop where
  registry : next.registry = r.registry
  configuration : next.configuration = r.configuration
  acts : ∀ service, Cell.Acts r.registry r.configuration service (r.cell service)
    (trace.traffic service) (next.cell service)

variable {r next last : Reactor P σ} {trace more : Trace} {service : Service}

theorem acts_of_act {traffic : Traffic} {client : Option Client} {outputs : List σ}
    (h : Cell.Act r.registry r.configuration service (r.cell service) traffic
      { r.cell service with client, outputs })
    (hclient : next.clients.client? service = client)
    (houtputs : next.scheduler.outputsOf service = outputs)
    (hlast : next.clients.lastId = r.clients.lastId) :
    Cell.Acts r.registry r.configuration service (r.cell service) traffic (next.cell service) := by
  have hcell : next.cell service = { r.cell service with client, outputs } := by
    simp only [cell, hclient, houtputs, hlast]
  rw [hcell]
  exact h.once

theorem acts_of_same (hclient : next.clients.client? service = r.clients.client? service)
    (houtputs : next.scheduler.outputsOf service = r.scheduler.outputsOf service)
    (hlast : next.clients.lastId = r.clients.lastId) :
    Cell.Acts r.registry r.configuration service (r.cell service) {} (next.cell service) := by
  have hcell : next.cell service = r.cell service := by
    simp only [cell, hclient, houtputs, hlast]
  rw [hcell]
  exact .refl _

theorem Plays.refl (r : Reactor P σ) : Plays r [] r := ⟨rfl, rfl, fun _ => .refl _⟩

theorem Plays.quiet (r : Reactor P σ) (h : trace.Quiet) : Plays r trace r :=
  ⟨rfl, rfl, fun service => (h.traffic service).symm ▸ .refl _⟩

theorem Plays.trans (h : Plays r trace next) (h' : Plays next more last) :
    Plays r (trace ++ more) last where
  registry := h'.registry.trans h.registry
  configuration := h'.configuration.trans h.configuration
  acts service := by
    have hmore := h'.acts service
    rw [h.registry, h.configuration] at hmore
    rw [Trace.traffic_append]
    exact (h.acts service).trans hmore

/-! ## Joining and leaving -/

theorem register_plays (r : Reactor P σ) :
    Plays r r.clients.register.2.2 { r with clients := r.clients.register.2.1 } := by
  refine ⟨rfl, rfl, fun service => ?_⟩
  rw [r.clients.register_quiet.traffic]
  by_cases hnew : service = ⟨r.clients.lastId + 1⟩
  · have hfree : (r.cell service).given = false := by simp [cell, hnew]
    have hcell : ({ r with clients := r.clients.register.2.1 } : Reactor P σ).cell service =
        { r.cell service with client := some {}, given := true } := by
      simp only [cell, Clients.register_client?, if_pos hnew]
      simp [hnew, Clients.register]
    rw [hcell]
    exact (Cell.Act.join _ hfree).once
  · have hcell : ({ r with clients := r.clients.register.2.1 } : Reactor P σ).cell service =
        r.cell service := by
      have hnumber : service.number ≠ r.clients.lastId + 1 := fun h => hnew (congrArg Service.mk h)
      have hle : service.number ≤ r.clients.lastId + 1 ↔ service.number ≤ r.clients.lastId := by omega
      simp only [cell, Clients.register_client?, if_neg hnew]
      simp [Clients.register, hle]
    rw [hcell]
    exact .refl _

theorem departedNotes_quiet (transitions : List Transition) :
    Trace.Quiet (transitions.map departedNote) := by
  simp [Trace.Quiet, departedNote]

omit [OutputSequence σ] in
theorem dropService_traffic (r : Reactor P σ) (service other : Service) :
    (r.dropService service).trace.traffic other = {} := by
  simp only [dropService, Trace.traffic_append, (r.scheduler.cancelFor_quiet service).traffic,
    (departedNotes_quiet _).traffic, (r.clients.remove_quiet service).traffic, Traffic.append_empty]

theorem dropService_plays (r : Reactor P σ) (service : Service) :
    Plays r (r.dropService service).trace (r.dropService service).reactor := by
  refine ⟨rfl, rfl, fun other => ?_⟩
  have hclient := r.clients.remove_client? service other
  have houtputs := r.scheduler.outputsOf_cancelFor service other
  have hlast := r.clients.remove_lastId service
  rw [r.dropService_traffic]
  by_cases h : other = service
  · rw [if_pos h] at hclient houtputs
    exact acts_of_act (.leave _) hclient houtputs hlast
  · rw [if_neg h] at hclient houtputs
    exact acts_of_same hclient houtputs hlast

/-! ## Reading and sending -/

theorem visit_plays (r : Reactor P σ) (operation : Service → Client → Clients.Progress)
    (h : ∀ (service : Service) (c : Client) (cell : Cell σ), cell.client = some c →
      Cell.Act r.registry r.configuration service cell ((operation service c).trace.traffic service)
        { cell with client := some (operation service c).client })
    (hother : ∀ (service other : Service) (c : Client), service ≠ other →
      (operation service c).trace.traffic other = {}) :
    Plays r (r.clients.visit operation).2.2
      { r with clients := (r.clients.visit operation).1 } := by
  refine ⟨rfl, rfl, fun service => ?_⟩
  have hclient := r.clients.visit_client? service operation
  rw [Clients.visit_traffic _ _ _ fun other c => hother other service c]
  cases hc : r.clients.client? service with
  | none =>
    rw [hc] at hclient
    exact acts_of_same (hclient.trans hc.symm) rfl rfl
  | some c =>
    rw [hc] at hclient
    exact acts_of_act (h service c (r.cell service) hc) hclient rfl rfl

theorem receive_plays (r : Reactor P σ) (reads : Service → List ReadOutcome) :
    Plays r (r.clients.readAvailable reads).2.2
      { r with clients := (r.clients.readAvailable reads).1 } := by
  refine visit_plays r _ (fun service c cell hc => ?_) fun service other c hne => ?_
  all_goals
    obtain ⟨pieces, inputEnded, closed, hclosed, hclient, htraffic⟩ :=
      Clients.readClient_spec service (reads service) c
  · rw [htraffic, if_pos rfl, hclient]
    exact .read cell c pieces inputEnded closed hc hclosed
  · rw [htraffic, if_neg (Ne.symm hne)]

theorem send_plays (r : Reactor P σ) (writes : Service → List WriteOutcome) :
    Plays r (r.clients.flush writes).2.2 { r with clients := (r.clients.flush writes).1 } := by
  refine visit_plays r _ (fun service c cell hc => ?_) fun service other c hne => ?_
  all_goals
    obtain ⟨sent, outbound, closed, hout, hclosed, hclient, htraffic⟩ :=
      Clients.flushClient_spec service (writes service) c
  · rw [htraffic, if_pos rfl, hclient]
    exact .send cell c sent outbound closed hc hout hclosed
  · rw [htraffic, if_neg (Ne.symm hne)]

/-! ## Commands and outputs -/

theorem dispatched_plays {r : Reactor P σ} {clients : Clients} {c : Client} {line : String}
    {rest : List String} {result : DispatchResult P σ} (hc : r.clients.client? service = some c)
    (hopen : c.closed = false) (hidle : r.scheduler.outputsOf service = [])
    (hlines : c.lines = line :: rest) (hlast : clients.lastId = r.clients.lastId)
    (hclients : ∀ other, clients.client? other =
      if other = service then some { c with lines := rest } else r.clients.client? other)
    (hresult : result = r.registry.dispatch service line r.sessions r.configuration r.scheduler) :
    Plays r result.trace { r with
      clients := clients.deliver result.trace
      sessions := result.sessions
      scheduler := result.scheduler } := by
  refine ⟨rfl, rfl, fun other => ?_⟩
  have hspec := dispatch_spec r.registry r.configuration service line r.sessions r.scheduler
  have hlast' := (clients.deliver_lastId result.trace).trans hlast
  have hclient := hclients other
  rw [← hresult] at hspec
  by_cases hother : other = service
  · subst hother
    rw [if_pos rfl] at hclient
    rcases hspec with ⟨output, hresponse, hscheduler, htraffic⟩ |
      ⟨sequence, hbegins, hscheduler, htraffic⟩
    · have hown := htraffic other
      rw [if_pos rfl] at hown
      have hwritten := Clients.deliver_client?_of_open result.trace hclient hopen
      rw [show result.trace.writtenTo other = output from congrArg Traffic.written hown] at hwritten
      rw [hown]
      exact acts_of_act (.answer (r.cell other) c line rest output hc hopen hidle hlines hresponse)
        hwritten (congrArg (·.outputsOf other) hscheduler) hlast'
    · have hwritten := clients.deliver_client?_of_nil
        (congrArg Traffic.written (htraffic other))
      have houtputs := r.scheduler.outputsOf_schedule other other line sequence
      rw [if_pos rfl, hidle, ← hscheduler] at houtputs
      rw [htraffic]
      exact acts_of_act (.schedule (r.cell other) c line rest sequence hc hopen hidle hlines hbegins)
        (hwritten.trans hclient) houtputs hlast'
  · rw [if_neg hother] at hclient
    have htraffic : result.trace.traffic other = {} := by
      rcases hspec with ⟨output, -, -, htraffic⟩ | ⟨sequence, -, -, htraffic⟩
      · rw [htraffic, if_neg hother]
      · exact htraffic other
    have houtputs : result.scheduler.outputsOf other = r.scheduler.outputsOf other := by
      rcases hspec with ⟨output, -, hscheduler, -⟩ | ⟨sequence, -, hscheduler, -⟩
      · rw [hscheduler]
      · rw [hscheduler, Scheduler.outputsOf_schedule, if_neg hother]
    have hwritten := clients.deliver_client?_of_nil (congrArg Traffic.written htraffic)
    rw [htraffic]
    exact acts_of_same (hwritten.trans hclient) houtputs hlast'

theorem dispatchedNote_quiet (service : Service) (outcome : Except DispatchError Dispatched) :
    Trace.Quiet [dispatchedNote service outcome] := by
  cases outcome <;> simp [Trace.Quiet, dispatchedNote]

theorem dispatchFor_plays (r : Reactor P σ) (service : Service) :
    Plays r (r.dispatchFor service).trace (r.dispatchFor service).reactor := by
  unfold dispatchFor
  split
  · exact .refl r
  · rename_i hbusy
    have hidle := (r.scheduler.isBusy_eq_false service).mp (Bool.eq_false_iff.mpr hbusy)
    split
    · exact .refl r
    · rename_i line clients hline
      obtain ⟨c, rest, hc, hopen, hlines, hlast, hclients⟩ := Clients.nextLine_eq_some _ _ hline
      exact (dispatched_plays hc hopen hidle hlines hlast hclients rfl).trans
        (.quiet _ (dispatchedNote_quiet service _))

variable [Session.Provider P]

theorem tick_plays (r : Reactor P σ) : Plays r r.tick.trace r.tick.reactor := by
  unfold tick
  split
  · exact .refl r
  · refine ⟨rfl, rfl, fun service => ?_⟩
    have htraffic := r.scheduler.tick_traffic service r.clients.isConnected r.context
    have houtputs := r.scheduler.outputsOf_tick service r.clients.isConnected r.context
    have hlast := r.clients.deliver_lastId (r.scheduler.tick r.clients.isConnected r.context).2
    have hwritten := congrArg Traffic.written htraffic
    cases hconnected : r.clients.isConnected service with
    | false =>
      rw [hconnected, if_neg Bool.false_ne_true] at htraffic houtputs hwritten
      simp only [htraffic]
      exact acts_of_act (.abandon (r.cell service) hconnected)
        (r.clients.deliver_client?_of_nil hwritten) houtputs hlast
    | true =>
      rw [hconnected, if_pos rfl] at htraffic houtputs hwritten
      obtain ⟨c, hc, hopen⟩ := Clients.isConnected_iff.mp hconnected
      have hclient := Clients.deliver_client?_of_open
        (r.scheduler.tick r.clients.isConnected r.context).2 hc hopen
      simp only [Trace.traffic] at hwritten
      rw [hwritten] at hclient
      simp only [htraffic]
      exact acts_of_act (.step (r.cell service) c r.context hc hopen) hclient houtputs hlast

/-! ## Runs -/

/-- Whatever the reactor does, it plays the part of every cell. -/
theorem plays_course : Course (@Plays P σ _) where
  refl := .refl
  trans := .trans
  await _ _ := ⟨rfl, rfl, fun _ => acts_of_same rfl rfl rfl⟩
  join := register_plays
  receive := receive_plays
  dispatch := dispatchFor_plays
  tick := tick_plays
  send := send_plays
  drop := dropService_plays

end Reactor

end RouteServer
