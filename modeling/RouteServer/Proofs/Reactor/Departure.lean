import RouteServer.Proofs.Channel.Overlong
import RouteServer.Proofs.Channel.Sending
import RouteServer.Proofs.Reactor.Conversation
import RouteServer.Proofs.Reactor.Settled
import RouteServer.Proofs.Schedule.Endings
import RouteServer.Command.Standard
import RouteServer.Session.Recorded

/-! # Clients that have finished sending

A client whose input has ended is dropped in the turn in which all is done: its commands have been answered, and
its socket has taken the answers. As long as neither its reads and writes fail nor a line is too long, it is not
dropped before. `Account` says how such a client stands between two turns; each turn keeps it, and so does a run.
-/

namespace RouteServer

open Channel Command Schedule

/-! ## Reading and sending without failure -/

namespace Channel

theorem Client.fill_of_within {c : Client} {before : List (List UInt8)} {taken : List String}
    (h : c.Framed before.flatten taken) {budget : Nat} {outcomes : List ReadOutcome}
    (hcall : Call budget outcomes) (hwithin : Within (before ++ dataOf outcomes)) :
    let r := fill budget c outcomes
    r.received = arrived outcomes ∧ r.client.Framed (before.flatten ++ arrived outcomes) taken ∧
      (r.client.closed = c.closed ∧ r.client.inputEnded = c.inputEnded) ∧
        r.inbound = if .ended ∈ outcomes then .ended else .waiting := by
  obtain ⟨seen, hadmits, hreceived, hframed, hkept, hinbound⟩ := fill_admits h hwithin.of_append hcall
  obtain rfl := hadmits.eq_of_within hwithin
  rw [if_neg (Nat.not_lt.mpr (hwithin _ (List.prefix_refl _)))] at hinbound
  rw [List.flatten_append, flatten_dataOf] at hreceived hframed
  exact ⟨List.append_cancel_left hreceived, hframed, hkept, hinbound⟩

namespace Clients

/-- A client is there and connected, and has sent what its reads have given. -/
def Listens (cs : Clients) (service : Service) (reads : List ReadOutcome) : Prop :=
  ∃ taken, cs.Hears service (arrived reads) (decide (.ended ∈ reads)) taken

variable {cs : Clients} {service : Service} {reads : List ReadOutcome}

theorem Listens.deliver (h : cs.Listens service reads) (trace : Trace) :
    (cs.deliver trace).Listens service reads := by
  obtain ⟨taken, c, hc, hheard⟩ := h
  exact ⟨taken, _, deliver_client?_of_open trace hc hheard.connected,
    ⟨hheard.framed.lines, hheard.framed.unfinished⟩, hheard.inputEnded, hheard.connected⟩

theorem Listens.nextLine (h : cs.Listens service reads) (other : Service) :
    (cs.nextLine other).2.Listens service reads := by
  obtain ⟨taken, hhears⟩ := h
  exact ⟨_, hhears.take other⟩

theorem Listens.flush (h : cs.Listens service reads) {writes : Service → List WriteOutcome}
    (hwrites : Accepting (writes service)) :
    service ∉ (cs.flush writes).2.1 ∧ (cs.flush writes).1.Listens service reads := by
  obtain ⟨taken, c, hc, hheard⟩ := h
  have hfate := send_fate hc (.flush writes)
  have hinput := c.fate_sameInput (Sending.shares service (.flush writes))
  have hunbroken := hwrites.not_breaks c.outbound.length
  constructor
  · rw [flush_reports_iff hc]
    exact fun hreported => hunbroken hreported.2
  · refine ⟨taken, _, hfate.client, ⟨?_, ?_⟩, hinput.inputEnded.trans hheard.inputEnded, ?_⟩
    · rw [hinput.lines]
      exact hheard.framed.lines
    · rw [hinput.unfinished]
      exact hheard.framed.unfinished
    · rw [← Client.drain_failure_iff] at hunbroken
      simp [Sending.shares, Client.fate, Client.undergo, hheard.connected, hunbroken]

theorem readClient_received {c : Client} (service : Service) (hopen : c.closed = false)
    (hended : c.inputEnded = false) (outcomes : List ReadOutcome) :
    (readClient outcomes service c).trace.receivedFrom service =
      (Client.fill Client.readBudget c outcomes).received := by
  have hbytes := congrArg Traffic.received
    (Trace.traffic_received service (Client.fill Client.readBudget c outcomes).received service)
  rw [if_pos rfl] at hbytes
  simp only [readClient, hopen, hended, Bool.or_self, Bool.false_eq_true, if_false]
  split
  · exact hbytes
  all_goals exact (Trace.receivedFrom_append ..).trans ((List.append_nil _).trans hbytes)

theorem readAvailable_received {c : Client} (hc : cs.client? service = some c)
    (outcomes : Service → List ReadOutcome) : (cs.readAvailable outcomes).2.2.receivedFrom service =
      (readClient (outcomes service) service c).trace.receivedFrom service := by
  have htraffic := visit_traffic cs service (fun other d => readClient (outcomes other) other d)
    fun other d hne => by
      obtain ⟨pieces, inputEnded, closed, -, -, htraffic⟩ := readClient_spec other (outcomes other) d
      rw [htraffic, if_neg (Ne.symm hne)]
  rw [hc, Option.map_some, Option.getD_some] at htraffic
  exact congrArg Traffic.received htraffic

theorem Listens.read {outcomes : Service → List ReadOutcome} (h : cs.Listens service reads)
    (hcall : Call Client.readBudget (outcomes service))
    (hwithin : Within (dataOf (reads ++ outcomes service))) :
    service ∉ (cs.readAvailable outcomes).2.1 ∧
      (cs.readAvailable outcomes).1.Listens service (reads ++ outcomes service) ∧
        arrived reads ++ (cs.readAvailable outcomes).2.2.receivedFrom service =
          arrived (reads ++ outcomes service) := by
  obtain ⟨taken, c, hc, hheard⟩ := h
  rw [readAvailable_received hc]
  by_cases hover : .ended ∈ reads
  · rw [decide_eq_true hover] at hheard
    obtain ⟨hkept, hhears⟩ := Hears.read_of_ended ⟨c, hc, hheard⟩ outcomes
    rw [Listens, arrived_append_of_ended hover, decide_eq_true (List.mem_append_left _ hover),
      hheard.readClient_of_ended service]
    exact ⟨hkept, ⟨taken, hhears⟩, List.append_nil _⟩
  · rw [decide_eq_false hover] at hheard
    rw [dataOf_append_of_not_ended hover] at hwithin
    have hframed := hheard.framed
    rw [← flatten_dataOf] at hframed
    obtain ⟨hreceived, hfilled, hkept, hinbound⟩ := Client.fill_of_within hframed hcall hwithin
    rw [flatten_dataOf, ← arrived_append_of_not_ended hover] at hfilled
    obtain ⟨hstays, hhears⟩ :=
      hears_of_readClient hc (hheard.readClient_of_fill service hfilled hkept hinbound)
    have hmem : decide (.ended ∈ reads ++ outcomes service) = decide (.ended ∈ outcomes service) := by
      simp [hover]
    rw [Listens, hmem, readClient_received service hheard.connected hheard.inputEnded, hreceived]
    exact ⟨hstays, ⟨taken, hhears⟩, (arrived_append_of_not_ended hover _).symm⟩

end Clients

end Channel

/-! ## Cells -/

namespace Cell

variable {P σ : Type} [OutputSequence σ] {registry : Registry P σ} {configuration : Configuration}
  {service : Service} {cell next : Cell σ} {traffic : Traffic}

theorem Acts.given (h : Acts registry configuration service cell traffic next)
    (hgiven : cell.given = true) : next.given = true := by
  induction h with
  | refl cell => exact hgiven
  | head hfirst hrest ih =>
    refine ih ?_
    cases hfirst with
    | join hfree => rfl
    | _ => exact hgiven

theorem Acts.silent (h : Acts registry configuration service cell traffic next)
    (hgiven : cell.given = true) (hgone : cell.client = none) : traffic = {} ∧ next.client = none := by
  induction h with
  | refl cell => exact ⟨rfl, hgone⟩
  | head hfirst hrest ih =>
    cases hfirst with
    | join hfree => exact nomatch hgiven.symm.trans hfree
    | leave => exact ih hgiven rfl
    | abandon => exact ih hgiven hgone
    | read c pieces inputEnded closed hc => exact nomatch hgone.symm.trans hc
    | answer c line rest output hc => exact nomatch hgone.symm.trans hc
    | schedule c line rest sequence hc => exact nomatch hgone.symm.trans hc
    | step c context hc => exact nomatch hgone.symm.trans hc
    | send c sent outbound closed hc => exact nomatch hgone.symm.trans hc

end Cell

namespace Reactor

variable {P σ : Type} {r : Reactor P σ} {service : Service} {reads : List ReadOutcome}

theorem cell_client (r : Reactor P σ) (service : Service) :
    (r.cell service).client = r.clients.client? service := rfl

/-! ## Turns without failure -/

/-- What the reads of a client give in several turns. -/
def readsOf (service : Service) (rounds : List (Round P)) : List ReadOutcome :=
  rounds.flatMap (·.outside.reads service)

/-- Turns in which no read or write of a client fails, and no line of it is too long. -/
structure Undisturbed (service : Service) (rounds : List (Round P)) : Prop where
  calls : ∀ round ∈ rounds, Call Client.readBudget (round.outside.reads service)
  within : Within (dataOf (readsOf service rounds))
  writes : ∀ round ∈ rounds, Accepting (round.outside.writes service)

/-- The same for one more turn after reads that have given `reads`. -/
structure Smooth (service : Service) (reads : List ReadOutcome) (outside : Surroundings) : Prop where
  call : Call Client.readBudget (outside.reads service)
  within : Within (dataOf (reads ++ outside.reads service))
  writes : Accepting (outside.writes service)

theorem Undisturbed.smooth {rounds early late : List (Round P)} {round : Round P}
    (h : Undisturbed service rounds) (heq : rounds = early ++ round :: late) :
    Smooth service (readsOf service early) round.outside where
  call := h.calls round (by simp [heq])
  within := by
    have hwithin := h.within
    rw [heq, readsOf, List.flatMap_append, List.flatMap_cons, ← List.append_assoc] at hwithin
    exact hwithin.of_dataOf_append
  writes := h.writes round (by simp [heq])

/-! ## Phases that read nothing -/

/-- No bytes are read from a client, and it stays connected. -/
structure Keeps (service : Service) (r : Reactor P σ) (trace : Trace) (next : Reactor P σ) : Prop where
  received : trace.receivedFrom service = []
  listens : ∀ reads, r.clients.Listens service reads → next.clients.Listens service reads

theorem Keeps.refl (service : Service) (r : Reactor P σ) : Keeps service r [] r :=
  ⟨rfl, fun _ h => h⟩

theorem dropServices_traffic (r : Reactor P σ) (services : List Service) (other : Service) :
    (r.dropServices services).trace.traffic other = {} := by
  induction services generalizing r with
  | nil => rfl
  | cons service rest ih =>
    simp only [dropServices, Trace.traffic_append, ih, Traffic.append_empty]
    exact r.dropService_traffic service other

theorem accept_keeps (r : Reactor P σ) (n : Nat) (hgiven : service.number ≤ r.clients.lastId) :
    Keeps service r (r.accept n).trace (r.accept n).reactor := by
  induction n generalizing r with
  | zero => exact .refl service r
  | succ n ih =>
    have hrest := ih { r with clients := r.clients.register.2.1 } (Nat.le_succ_of_le hgiven)
    constructor
    · have hquiet := congrArg Traffic.received (r.clients.register_quiet.traffic service)
      rw [accept, Trace.receivedFrom_append, hrest.received, List.append_nil]
      exact hquiet
    · rintro reads ⟨taken, c, hc, hheard⟩
      refine hrest.listens reads ⟨taken, c, (Clients.register_client? ..).trans ?_, hheard⟩
      rw [if_neg, hc]
      rintro rfl
      exact Nat.not_succ_le_self _ hgiven

theorem flush_keeps (r : Reactor P σ) (service : Service) {writes : Service → List WriteOutcome}
    (hwrites : Accepting (writes service)) :
    Keeps service r (r.flush writes).trace (r.flush writes).reactor := by
  have hsent : (r.clients.flush writes).2.2.receivedFrom service = [] := by
    refine (congrArg Traffic.received (r.clients.flush_traffic service writes)).trans ?_
    cases r.clients.client? service <;> rfl
  constructor
  · have hdropped := congrArg Traffic.received (dropServices_traffic
      { r with clients := (r.clients.flush writes).1 } (r.clients.flush writes).2.1 service)
    simp only [flush, Trace.receivedFrom_append, hsent, List.nil_append]
    exact hdropped
  · intro reads h
    obtain ⟨hkept, taken, c, hc, hheard⟩ := h.flush hwrites
    refine ⟨taken, c, ?_, hheard⟩
    simp only [flush, dropServices_client?, if_neg hkept, hc]

/-- What has come from a client in a turn so far, and how it stands. -/
structure Attended (service : Service) (bytes : List UInt8) (reads : List ReadOutcome) (t : Turn P σ) :
    Prop where
  received : t.trace.receivedFrom service = bytes
  listens : t.reactor.clients.Listens service reads

theorem Attended.andThen {bytes : List UInt8} {t : Turn P σ} (h : Attended service bytes reads t)
    {phase : Reactor P σ → Turn P σ}
    (hphase : Keeps service t.reactor (phase t.reactor).trace (phase t.reactor).reactor) :
    Attended service bytes reads (t.andThen phase) where
  received := by
    rw [Turn.andThen, Trace.receivedFrom_append, h.received, hphase.received, List.append_nil]
  listens := hphase.listens reads h.listens

theorem accept_attended (r : Reactor P σ) {n i : Nat} (hi : i < n) :
    Attended ⟨r.clients.lastId + 1 + i⟩ [] [] (r.accept n) := by
  induction n generalizing r i with
  | zero => exact absurd hi (Nat.not_lt_zero i)
  | succ n ih =>
    let joined : Reactor P σ := { r with clients := r.clients.register.2.1 }
    have hrest : Attended ⟨r.clients.lastId + 1 + i⟩ [] [] (joined.accept n) := by
      cases i with
      | zero =>
        have hkept := joined.accept_keeps n (Nat.le_refl joined.clients.lastId)
        exact ⟨hkept.received, hkept.listens [] ⟨[], Clients.hears_register r.clients⟩⟩
      | succ j =>
        have hlater := ih joined (Nat.lt_of_succ_lt_succ hi)
        rwa [show joined.clients.lastId + 1 + j = r.clients.lastId + 1 + (j + 1) from
          Nat.succ_add_eq_add_succ (r.clients.lastId + 1) j] at hlater
    refine ⟨?_, hrest.listens⟩
    have hquiet := congrArg Traffic.received
      (r.clients.register_quiet.traffic (⟨r.clients.lastId + 1 + i⟩ : Service))
    rw [accept, Trace.receivedFrom_append]
    exact List.append_eq_nil_iff.mpr ⟨hquiet, hrest.received⟩

variable [OutputSequence σ]

theorem dispatchFor_keeps (r : Reactor P σ) (other service : Service) :
    Keeps service r (r.dispatchFor other).trace (r.dispatchFor other).reactor := by
  unfold dispatchFor
  split
  · exact .refl service r
  · have hnext := fun reads (h : r.clients.Listens service reads) => h.nextLine other
    split
    · exact .refl service r
    · rename_i line clients hline
      rw [hline] at hnext
      refine ⟨?_, fun reads h => (hnext reads h).deliver _⟩
      have hnote := congrArg Traffic.received ((dispatchedNote_quiet other (r.registry.dispatch other line
        r.sessions r.configuration r.scheduler).outcome).traffic service)
      rw [Trace.receivedFrom_append]
      refine List.append_eq_nil_iff.mpr ⟨?_, hnote⟩
      rcases dispatch_spec r.registry r.configuration other line r.sessions r.scheduler with
        ⟨output, -, -, htraffic⟩ | ⟨sequence, -, -, htraffic⟩
      · refine (congrArg Traffic.received (htraffic service)).trans ?_
        split <;> rfl
      · exact congrArg Traffic.received (htraffic service)

theorem dispatchAll_keeps (r : Reactor P σ) (services : List Service)
    (service : Service) : Keeps service r (r.dispatchAll services).trace (r.dispatchAll services).reactor := by
  induction services generalizing r with
  | nil => exact .refl service r
  | cons other rest ih =>
    have hfirst := r.dispatchFor_keeps other service
    have hrest := ih (r.dispatchFor other).reactor
    refine ⟨?_, fun reads h => hrest.listens _ (hfirst.listens _ h)⟩
    rw [dispatchAll, Trace.receivedFrom_append, hfirst.received, hrest.received]
    rfl

theorem tick_keeps [Session.Provider P] (r : Reactor P σ) (service : Service) :
    Keeps service r r.tick.trace r.tick.reactor := by
  unfold tick
  split
  · exact .refl service r
  · refine ⟨?_, fun reads h => h.deliver _⟩
    refine (congrArg Traffic.received
      (r.scheduler.tick_traffic service r.clients.isConnected r.context)).trans ?_
    split <;> rfl

/-! ## The end of a conversation -/

/-- All commands in the bytes that a client has sent have been answered, and its socket has taken the
answers. -/
structure Answered (registry : Registry P σ) (configuration : Configuration) (service : Service)
    (input : List UInt8) (traffic : Traffic) (finished : List Exchange) : Prop where
  /-- There is an exchange for each command, in the order in which the commands were sent. -/
  commands : finished.map (·.line) = commands input
  /-- Each is a whole response: its lines, then exactly one marker. -/
  whole : ∀ x ∈ finished, Responds registry configuration service x.line x.output ∧
    ∃ (lines : List String) (answer : Answer), x.output = lines.map .line ++ [.marker answer]
  /-- Nothing else has been written to the client. -/
  written : traffic.written = finished.flatMap (·.output)
  sent : traffic.sent = encode traffic.written

/-- The input of a client has ended, and it has got all its answers. -/
def Completed (registry : Registry P σ) (configuration : Configuration) (service : Service)
    (reads : List ReadOutcome) (traffic : Traffic) : Prop :=
  .ended ∈ reads ∧ ∃ finished, Answered registry configuration service (arrived reads) traffic finished

variable {registry : Registry P σ} {configuration : Configuration} {traffic : Traffic}
  {finished : List Exchange} {current : Option Exchange}

theorem markers_of_responds (h : ∀ x ∈ finished, Responds registry configuration service x.line x.output) :
    (finished.flatMap (·.output)).countP Output.isMarker = finished.length := by
  induction finished with
  | nil => rfl
  | cons x rest ih =>
    obtain ⟨lines, answer, houtput⟩ := (h x List.mem_cons_self).marked
    have hrest := ih fun y hy => h y (List.mem_cons_of_mem _ hy)
    rw [List.flatMap_cons, List.countP_append, hrest, houtput]
    simp [Output.isMarker, List.countP_map, Function.comp_def, Nat.add_comm]

theorem answered_of_nothing_left {c : Client} (hc : r.clients.client? service = some c)
    (h : Conversation registry configuration service (r.cell service) traffic finished none)
    (hlines : c.lines = []) (hout : c.outbound = []) :
    Answered registry configuration service traffic.received traffic finished := by
  obtain ⟨hframed, hsent⟩ := h.present c hc
  constructor
  · rw [← hframed.lines, hlines]
    simp [Exchange.lines]
  · exact fun x hx => ⟨h.whole x hx, (h.whole x hx).marked⟩
  · simpa [Exchange.written] using h.written
  · simpa [hout] using hsent

theorem Answered.nothing_left {answered : List Exchange} {c : Client}
    (h : Answered registry configuration service traffic.received traffic answered)
    (hc : r.clients.client? service = some c)
    (hconversation : Conversation registry configuration service (r.cell service) traffic finished current) :
    c.lines = [] ∧ c.outbound = [] ∧ current = none := by
  obtain ⟨hframed, hsent⟩ := hconversation.present c hc
  have hunmarked : (current.toList.flatMap (·.output)).countP Output.isMarker = 0 := by
    cases current with
    | none => rfl
    | some x =>
      obtain ⟨rest, hunderway⟩ := hconversation.unfinished.underway
      obtain ⟨lines, houtput⟩ := hunderway.markerless
      simp [houtput, Output.isMarker, List.countP_map, Function.comp_def]
  -- There are as many markers as finished exchanges, so all exchanges are finished.
  have hmarkers := congrArg (List.countP Output.isMarker) (hconversation.written.symm.trans h.written)
  rw [Exchange.written, List.flatMap_append, List.countP_append, hunmarked,
    markers_of_responds hconversation.whole, markers_of_responds fun x hx => (h.whole x hx).1] at hmarkers
  have hlines := congrArg List.length (hframed.lines.trans h.commands.symm)
  simp only [Exchange.lines, List.length_append, List.length_map] at hlines
  refine ⟨List.eq_nil_of_length_eq_zero (by omega), ?_, ?_⟩
  · rw [← h.sent] at hsent
    exact List.append_right_eq_self.mp hsent
  · exact Option.toList_eq_nil_iff.mp (List.eq_nil_of_length_eq_zero (by omega))

omit [OutputSequence σ] in
theorem mem_finished_idle_iff {c : Client} (hc : r.clients.client? service = some c) :
    (service ∈ r.clients.finished.filter fun other => !r.scheduler.isBusy other) ↔
      c.inputEnded = true ∧ c.lines = [] ∧ c.outbound = [] ∧ r.scheduler.outputsOf service = [] := by
  rw [List.mem_filter, Clients.finished, Clients.those, Keyed.mem_map_filter, ← Scheduler.isBusy_eq_false]
  constructor
  · rintro ⟨⟨c', hc', hdone⟩, hidle⟩
    obtain rfl := Option.some.inj (hc.symm.trans hc')
    simpa [and_assoc] using And.intro hdone hidle
  · rintro ⟨hended, hlines, hout, hidle⟩
    exact ⟨⟨c, hc, by simp [hended, hlines, hout]⟩, by simp [hidle]⟩

/-- A client is dropped when it has got all its answers, and not before. -/
theorem dropFinished_completed
    (hconversation : Conversation registry configuration service (r.cell service) traffic finished current)
    (hreceived : traffic.received = arrived reads) (h : r.clients.Listens service reads) :
    (r.dropFinished.reactor.clients.Listens service reads ∧
        ¬ Completed registry configuration service reads traffic) ∨
      (r.dropFinished.reactor.clients.client? service = none ∧
        Completed registry configuration service reads traffic) := by
  obtain ⟨taken, c, hc, hheard⟩ := h
  rw [Completed, ← hreceived]
  simp only [Clients.Listens, Clients.Hears, dropFinished, dropServices_client?]
  split
  · rename_i hdropped
    obtain ⟨hended, hlines, hout, hidle⟩ := (mem_finished_idle_iff hc).mp hdropped
    -- Nothing is under way, so the last exchange is finished too.
    obtain rfl := hconversation.unfinished.eq_none hc hheard.connected hidle
    exact .inr ⟨rfl, of_decide_eq_true (hheard.inputEnded.symm.trans hended), finished,
      answered_of_nothing_left hc hconversation hlines hout⟩
  · rename_i hkept
    refine .inl ⟨⟨taken, c, hc, hheard⟩, ?_⟩
    rintro ⟨hended, answered, hanswered⟩
    obtain ⟨hlines, hout, rfl⟩ := hanswered.nothing_left hc hconversation
    refine hkept ((mem_finished_idle_iff hc).mpr ⟨hheard.inputEnded.trans (decide_eq_true hended), hlines,
      hout, ?_⟩)
    cases hconversation.unfinished with
    | idle hidle => exact hidle

/-! ## Between two turns -/

/-- How a client stands between two turns, by what its reads have given so far. -/
structure Account (registry : Registry P σ) (configuration : Configuration) (service : Service)
    (reads : List ReadOutcome) (r : Reactor P σ) (traffic : Traffic) : Prop where
  rules : r.registry = registry ∧ r.configuration = configuration
  conversation : ∃ finished current,
    Conversation registry configuration service (r.cell service) traffic finished current
  given : (r.cell service).given = true
  received : traffic.received = arrived reads
  standing :
    (r.clients.Listens service reads ∧ ¬ Completed registry configuration service reads traffic) ∨
      (r.clients.client? service = none ∧ Completed registry configuration service reads traffic)

variable {outside : Surroundings}

theorem given_of_listens
    (h : Conversation registry configuration service (r.cell service) traffic finished current)
    (hlistens : r.clients.Listens service reads) : (r.cell service).given = true := by
  obtain ⟨_, c, hc, -⟩ := hlistens
  exact h.given hc

theorem Account.await (h : Account registry configuration service reads r traffic) (round : Round P) :
    Account registry configuration service reads (r.await round) traffic :=
  ⟨h.rules, h.conversation, h.given, h.received, h.standing⟩

/-! ## A turn -/

variable [Session.Provider P]

/-- The part of a turn before clients that have finished are dropped. -/
def exchange (r : Reactor P σ) (outside : Surroundings) : Turn P σ :=
  ((r.intake outside).andThen tick).andThen (·.flush outside.writes)

theorem turn_eq (r : Reactor P σ) (outside : Surroundings) :
    r.turn outside = (r.exchange outside).andThen dropFinished := rfl

theorem turn_reactor_eq (r : Reactor P σ) (outside : Surroundings) :
    (r.turn outside).reactor = (r.exchange outside).reactor.dropFinished.reactor := by
  rw [turn_eq, Turn.andThen]

theorem turn_traffic (r : Reactor P σ) (outside : Surroundings) (service : Service) :
    (r.turn outside).trace.traffic service = (r.exchange outside).trace.traffic service := by
  rw [turn_eq, Turn.andThen, Trace.traffic_append, dropFinished, dropServices_traffic, Traffic.append_empty]

theorem exchange_plays (r : Reactor P σ) (outside : Surroundings) :
    Plays r (r.exchange outside).trace (r.exchange outside).reactor :=
  plays_course.andThen r (plays_course.andThen r (plays_course.intake r outside) tick_plays)
    fun r => plays_course.flush r outside.writes

theorem exchange_attended {outside : Surroundings} (hsmooth : Smooth service reads outside)
    (haccept : Attended service [] reads (r.accept outside.arrivals)) :
    (r.exchange outside).reactor.clients.Listens service (reads ++ outside.reads service) ∧
      arrived reads ++ (r.exchange outside).trace.receivedFrom service =
        arrived (reads ++ outside.reads service) := by
  let accepted := r.accept outside.arrivals
  obtain ⟨hkept, ⟨taken, c, hc, hheard⟩, hreceived⟩ := haccept.listens.read hsmooth.call hsmooth.within
  have hread : Attended service
      ((accepted.reactor.clients.readAvailable outside.reads).2.2.receivedFrom service)
      (reads ++ outside.reads service) (accepted.andThen (·.read outside.reads)) := by
    constructor
    · have hdropped := congrArg Traffic.received (dropServices_traffic
        { accepted.reactor with clients := (accepted.reactor.clients.readAvailable outside.reads).1 }
        (accepted.reactor.clients.readAvailable outside.reads).2.1 service)
      simp only [Turn.andThen, Reactor.read, Trace.receivedFrom_append]
      rw [haccept.received]
      exact (congrArg (_ ++ ·) hdropped).trans (List.append_nil _)
    · refine ⟨taken, c, ?_, hheard⟩
      simp only [Turn.andThen, Reactor.read, dropServices_client?]
      rw [if_neg hkept, hc]
  have hintake : Attended service _ _ (r.intake outside) :=
    hread.andThen (dispatchAll_keeps _ _ service)
  have hexchange : Attended service _ _ (r.exchange outside) :=
    (hintake.andThen (tick_keeps _ service)).andThen (flush_keeps _ service hsmooth.writes)
  refine ⟨hexchange.listens, ?_⟩
  rw [hexchange.received]
  exact hreceived

theorem given_of_dropFinished (h : (r.cell service).given = true) :
    (r.dropFinished.reactor.cell service).given = true :=
  ((plays_course.dropServices r _).acts service).given h

theorem Account.attend (hrules : r.registry = registry ∧ r.configuration = configuration)
    (hconversation : ∃ finished current,
      Conversation registry configuration service (r.cell service) traffic finished current)
    (hreceived : traffic.received = arrived reads)
    (haccept : Attended service [] reads (r.accept outside.arrivals))
    (hsmooth : Smooth service reads outside) :
    Account registry configuration service (reads ++ outside.reads service) (r.turn outside).reactor
      (traffic ++ (r.turn outside).trace.traffic service) := by
  obtain ⟨rfl, rfl⟩ := hrules
  obtain ⟨finished, current, hconversation⟩ := hconversation
  have hplays := exchange_plays r outside
  have hturn := plays_course.turn r outside
  obtain ⟨hlistens, hbytes⟩ := exchange_attended hsmooth haccept
  obtain ⟨finished', current', hexchanged⟩ := hconversation.acts (hplays.acts service)
  have hall : (traffic ++ (r.exchange outside).trace.traffic service).received =
      arrived (reads ++ outside.reads service) := by
    rw [Traffic.received_append, hreceived]
    exact hbytes
  have hlast := r.turn_traffic outside service
  constructor
  · exact ⟨hturn.registry, hturn.configuration⟩
  · exact hconversation.acts (hturn.acts service)
  · rw [turn_reactor_eq]
    exact given_of_dropFinished (given_of_listens hexchanged hlistens)
  · rw [hlast]
    exact hall
  · rw [hlast, turn_reactor_eq]
    exact dropFinished_completed hexchanged hall hlistens

theorem Account.rest (h : Account registry configuration service reads r traffic)
    (hgone : r.clients.client? service = none)
    (hcompleted : Completed registry configuration service reads traffic) (outside : Surroundings) :
    Account registry configuration service (reads ++ outside.reads service) (r.turn outside).reactor
      (traffic ++ (r.turn outside).trace.traffic service) := by
  obtain ⟨rfl, rfl⟩ := h.rules
  obtain ⟨finished, current, hconversation⟩ := h.conversation
  have hturn := plays_course.turn r outside
  obtain ⟨hsilent, hgone'⟩ := (hturn.acts service).silent h.given hgone
  obtain ⟨hended, hanswered⟩ := hcompleted
  have harrived := arrived_append_of_ended hended (outside.reads service)
  constructor
  · exact ⟨hturn.registry, hturn.configuration⟩
  · exact hconversation.acts (hturn.acts service)
  · exact (hturn.acts service).given h.given
  · rw [hsilent, Traffic.append_empty, h.received, harrived]
  · rw [hsilent, Traffic.append_empty, Completed, harrived]
    rw [cell_client] at hgone'
    exact .inr ⟨hgone', List.mem_append_left _ hended, hanswered⟩

theorem Account.turn (h : Account registry configuration service reads r traffic)
    (hsmooth : Smooth service reads outside) :
    Account registry configuration service (reads ++ outside.reads service) (r.turn outside).reactor
      (traffic ++ (r.turn outside).trace.traffic service) := by
  rcases h.standing with ⟨hlistens, -⟩ | ⟨hgone, hcompleted⟩
  · have hgiven : service.number ≤ r.clients.lastId := of_decide_eq_true h.given
    have hkeeps := r.accept_keeps outside.arrivals hgiven
    exact .attend h.rules h.conversation h.received ⟨hkeeps.received, hkeeps.listens _ hlistens⟩
      hsmooth
  · exact h.rest hgone hcompleted outside

/-! ## Runs -/

theorem run_append (r : Reactor P σ) (early late : List (Round P)) :
    r.run (early ++ late) =
      (((r.run early).1.run late).1, (r.run early).2 ++ ((r.run early).1.run late).2) := by
  induction early generalizing r with
  | nil => rfl
  | cons round early ih => simp only [List.cons_append, run, ih, List.append_assoc]

theorem Account.run (h : Account registry configuration service reads r traffic) (rounds : List (Round P))
    (hsmooth : ∀ early round late, rounds = early ++ round :: late →
      Smooth service (reads ++ readsOf service early) round.outside) :
    Account registry configuration service (reads ++ readsOf service rounds) (r.run rounds).1
      (traffic ++ (r.run rounds).2.traffic service) := by
  induction rounds generalizing r reads traffic with
  | nil =>
    rw [readsOf, List.flatMap_nil, List.append_nil]
    exact (Traffic.append_empty traffic).symm ▸ h
  | cons round later ih =>
    have hfirst := hsmooth [] round later rfl
    rw [readsOf, List.flatMap_nil, List.append_nil] at hfirst
    have hlater := ih ((h.await round).turn hfirst) fun early next late heq => by
      have hnext := hsmooth (round :: early) next late (by rw [heq, List.cons_append])
      rwa [readsOf, List.flatMap_cons, ← List.append_assoc] at hnext
    rw [run_cons, readsOf, List.flatMap_cons, ← List.append_assoc, Trace.traffic_append,
      ← Traffic.append_assoc]
    exact hlater

theorem account_joined {round : Round P} {i : Nat}
    (hrules : r.registry = registry ∧ r.configuration = configuration)
    (hconversation : ∃ finished current, Conversation registry configuration ⟨r.clients.lastId + 1 + i⟩
      (r.cell ⟨r.clients.lastId + 1 + i⟩) traffic finished current)
    (hi : i < round.outside.arrivals)
    (hsmooth : Smooth ⟨r.clients.lastId + 1 + i⟩ [] round.outside) :
    Account registry configuration ⟨r.clients.lastId + 1 + i⟩
      (round.outside.reads ⟨r.clients.lastId + 1 + i⟩) ((r.await round).turn round.outside).reactor
      (traffic ++ ((r.await round).turn round.outside).trace.traffic ⟨r.clients.lastId + 1 + i⟩) := by
  have hfree : (r.cell ⟨r.clients.lastId + 1 + i⟩).given = false := by
    simp only [cell, decide_eq_false_iff_not]
    omega
  have hnone : traffic = {} := by
    obtain ⟨finished, current, h⟩ := hconversation
    exact (h.fresh hfree).2.2
  have hreceived : traffic.received = arrived [] := by
    rw [hnone]
    rfl
  have haccept := (r.await round).accept_attended hi
  exact .attend (r := r.await round) hrules hconversation hreceived haccept hsmooth

/-- A client that has shut down its end of the connection gets all its answers. As long as nothing fails with
it, it stays connected until its input has ended, each command that it has ever sent has been answered, and its
socket has taken the answers; it is dropped in the turn in which this comes true. -/
theorem half_closed_client_answered (registry : Registry P σ) (sessions : P) (configuration : Configuration)
    (early : List (Round P)) (round : Round P) (later : List (Round P)) (i : Nat)
    (hi : i < round.outside.arrivals)
    (hundisturbed : Undisturbed ⟨(({ registry, sessions, configuration } : Reactor P σ).run
      early).1.clients.lastId + 1 + i⟩ (round :: later)) :
    let start : Reactor P σ := { registry, sessions, configuration }
    let service : Service := ⟨(start.run early).1.clients.lastId + 1 + i⟩
    ∀ since rest, later = since ++ rest →
      let (r, trace) := start.run (early ++ round :: since)
      let reads := readsOf service (round :: since)
      let completed := Completed registry configuration service reads (trace.traffic service)
      (r.clients.isConnected service = true ∧ ¬ completed) ∨
        (r.clients.client? service = none ∧ completed ∧
          arrived (readsOf service (round :: later)) = arrived reads) := by
  rintro start service since rest rfl
  have hplays := plays_course.run start early
  have hconversation := (Conversation.start (decide (service.number ≤ 0))).acts (hplays.acts service)
  have hfirst : Smooth service [] round.outside := hundisturbed.smooth (List.nil_append _).symm
  have hjoined := account_joined ⟨hplays.registry, hplays.configuration⟩ hconversation hi hfirst
  have haccount := hjoined.run since fun before next behind heq => by
    have hwhole : round :: (since ++ rest) = (round :: before) ++ next :: (behind ++ rest) := by
      rw [heq, List.append_assoc, List.cons_append, List.cons_append]
    have hnext := hundisturbed.smooth hwhole
    rwa [readsOf, List.flatMap_cons] at hnext
  have hreads : round.outside.reads service ++ readsOf service since = readsOf service (round :: since) := by
    rw [readsOf, readsOf, List.flatMap_cons]
  have hstanding := haccount.standing
  rw [hreads, Traffic.append_assoc, ← Trace.traffic_append, Traffic.empty_append,
    ← Trace.traffic_append] at hstanding
  rw [run_append, run_cons]
  rcases hstanding with ⟨⟨_, c, hc, hheard⟩, hleft⟩ | ⟨hgone, hcompleted⟩
  · exact .inl ⟨Clients.isConnected_iff.mpr ⟨c, hc, hheard.connected⟩, hleft⟩
  · refine .inr ⟨hgone, hcompleted, ?_⟩
    have hall : readsOf service (round :: (since ++ rest)) =
        readsOf service (round :: since) ++ readsOf service rest := by
      simp only [readsOf, List.flatMap_cons, List.flatMap_append, List.append_assoc]
    rw [hall]
    exact arrived_append_of_ended hcompleted.1 _

theorem answered_after_shutdown :
    let registry : Registry Session.Recorded Listing :=
      { commands := [Teardown.descriptor, ShowNeighbor.descriptor] }
    let start : Reactor Session.Recorded Listing := { registry, sessions := {}, configuration := {} }
    let early : List (Round Session.Recorded) := [{ outside := { arrivals := 1 } }]
    let first : Round Session.Recorded := { outside :=
      { arrivals := 1, reads := fun _ => [.data (Utf8.encode "show n"), .interrupted, .wouldBlock] } }
    let later : List (Round Session.Recorded) :=
      [{ outside := { reads := fun _ => [.data (Utf8.encode "eighbor\n\nclear\nshow"), .ended] } },
        { outside := { writes := fun _ => [.accepted 9, .wouldBlock] } },
        { outside := { writes := fun _ => [.interrupted, .accepted 90] } },
        { outside := { writes := fun _ => [.wouldBlock] } },
        { outside := { writes := fun _ => [.accepted 20, .accepted 90] } }]
    let reads := readsOf ⟨2⟩ (first :: later)
    let (r, trace) := start.run (early ++ first :: later)
    r.clients.client? ⟨2⟩ = none ∧ commands (arrived reads) = ["show neighbor", "clear"] ∧
      Completed registry {} ⟨2⟩ reads (trace.traffic ⟨2⟩) := by
  intro registry start early first later reads
  have hnumber : (({ registry, sessions := {}, configuration := {} } : Reactor Session.Recorded Listing).run
      early).1.clients.lastId + 1 + 0 = 2 := by decide +kernel
  have hshort : ShortLines (dataOf reads).flatten := by
    unfold ShortLines
    decide +kernel
  have hundisturbed : Undisturbed ⟨2⟩ (first :: later) := by
    refine ⟨?_, hshort.within, by simp [first, later, Accepting]⟩
    simp only [first, later, List.forall_mem_cons]
    exact ⟨.data _ _ _ (.interrupted _ _ (.blocked _)), .data _ _ _ (.ended _), .silent _, .silent _,
      .silent _, .silent _, fun _ h => nomatch h⟩
  have hcommands : commands (arrived reads) = ["show neighbor", "clear"] := by decide +kernel
  have hgone : (start.run (early ++ first :: later)).1.clients.isConnected ⟨2⟩ ≠ true := by decide +kernel
  have hstanding := half_closed_client_answered registry ({} : Session.Recorded) {} early first later 0
    Nat.zero_lt_one
  simp only [hnumber] at hstanding
  replace hstanding := hstanding hundisturbed later [] (List.append_nil _).symm
  generalize start.run (early ++ first :: later) = last at hgone hstanding ⊢
  obtain ⟨hnone, hcompleted, -⟩ := hstanding.resolve_left fun hstays => hgone hstays.1
  exact ⟨hnone, hcommands, hcompleted⟩

end Reactor

end RouteServer
