import RouteServer.Proofs.Command.Lines
import RouteServer.Proofs.Reactor.Conversation
import RouteServer.Proofs.Reactor.Phases

/-! # A client finds its responses again

The bytes for a client are its responses, one after the other. Cut at line feeds they are the lines of the
responses again, and the lines that say how a response ends are its markers and no others: nothing that peers
or the configuration say is taken for a marker, as long as the names in OPEN messages hold no line feeds.
-/

namespace RouteServer

open Channel Command Session

/-! ## What every step keeps -/

/-- All lines for clients are payload or markers. -/
def Trace.Legible (t : Trace) : Prop := ∀ service, ∀ o ∈ t.writtenTo service, o.Legible

theorem Trace.Legible.append {t u : Trace} (ht : t.Legible) (hu : u.Legible) : Trace.Legible (t ++ u) := by
  intro service
  rw [writtenTo_append]
  exact List.forall_mem_append.mpr ⟨ht service, hu service⟩

theorem Trace.legible_of_nil {t : Trace} (h : ∀ service, t.writtenTo service = []) : t.Legible := by
  intro service o ho
  rw [h service] at ho
  cases ho

theorem Trace.Quiet.legible {t : Trace} (h : t.Quiet) : t.Legible :=
  legible_of_nil fun service => congrArg Traffic.written (h.traffic service)

namespace Reactor

/-- A state from which only payload and markers are written. -/
structure Legible (r : Reactor Table Listing) : Prop where
  commands : ∀ d ∈ r.registry.commands, d.Pays
  neighbors : ∀ n ∈ r.configuration.neighbors, n.IsDeclared
  names : r.sessions.NamesUnbroken
  outputs : ∀ service, ∀ l ∈ r.scheduler.outputsOf service, l.Legible

def KeepsLegible (r : Reactor Table Listing) (trace : Trace) (next : Reactor Table Listing) : Prop :=
  r.Legible → next.Legible ∧ trace.Legible

variable {r : Reactor Table Listing}

theorem Legible.seen (h : r.Legible) : Seen r.context where
  snapshots _ _ hs := h.names.snapshot hs
  neighbors := h.neighbors

theorem dropService_legible (r : Reactor Table Listing) (service : Service) :
    KeepsLegible r (r.dropService service).trace (r.dropService service).reactor := by
  refine fun h => ⟨⟨h.commands, h.neighbors, h.names, fun other l hl => ?_⟩, ?_⟩
  · have houtputs := r.scheduler.outputsOf_cancelFor service other
    rw [show (r.dropService service).reactor.scheduler = (r.scheduler.cancelFor service).1 from rfl,
      houtputs] at hl
    split at hl
    · cases hl
    · exact h.outputs other l hl
  · exact ((r.scheduler.cancelFor_quiet service).legible.append (departedNotes_quiet _).legible).append
      (r.clients.remove_quiet service).legible

theorem dispatchFor_legible (r : Reactor Table Listing) (service : Service) :
    KeepsLegible r (r.dispatchFor service).trace (r.dispatchFor service).reactor := by
  intro h
  have hnothing : Trace.Legible [] := Trace.legible_of_nil fun _ => rfl
  unfold dispatchFor
  split
  · exact ⟨h, hnothing⟩
  · split
    · exact ⟨h, hnothing⟩
    · rename_i line clients hline
      obtain ⟨outputs, queued, hexit, hwritten, -, hscheduler⟩ :=
        dispatch_exit r.registry service line r.sessions r.configuration r.scheduler
      obtain ⟨houtputs, hqueued⟩ := hexit.pays h.commands h.names
      have hnames := dispatch_names h.commands h.names service line r.configuration r.scheduler
      refine ⟨⟨h.commands, h.neighbors, hnames, fun other l hl => ?_⟩, ?_⟩
      · simp only [hscheduler, Schedule.Scheduler.outputsOf, List.filter_append, List.map_append,
          List.mem_append] at hl
        rcases hl with hl | hl
        · exact h.outputs other l hl
        · obtain ⟨task, htask, rfl⟩ := List.mem_map.mp hl
          exact hqueued task (List.mem_filter.mp htask).1
      · refine Trace.Legible.append (fun other o ho => ?_) (dispatchedNote_quiet service _).legible
        rw [Trace.writtenTo_eq, hwritten] at ho
        obtain ⟨w, hw, hto⟩ := List.mem_filterMap.mp ho
        obtain ⟨o', ho', rfl⟩ := List.mem_map.mp hw
        split at hto
        · exact Option.some.inj hto ▸ houtputs o' ho'
        · cases hto

theorem tick_legible (r : Reactor Table Listing) : KeepsLegible r r.tick.trace r.tick.reactor := by
  intro h
  unfold tick
  split
  · exact ⟨h, Trace.legible_of_nil fun _ => rfl⟩
  · refine ⟨⟨h.commands, h.neighbors, h.names, fun service l hl => ?_⟩, fun service o ho => ?_⟩
    · rw [Schedule.Scheduler.outputsOf_tick] at hl
      split at hl
      · obtain ⟨l', hl', hproceeds⟩ := List.mem_filterMap.mp hl
        unfold Schedule.proceed at hproceeds
        split at hproceeds
        · cases hproceeds
        · obtain rfl := Option.some.inj hproceeds
          exact (l'.step_pays (h.outputs service l' hl') h.seen).2
      · cases hl
    · have hwritten := congrArg Traffic.written
        (r.scheduler.tick_traffic service r.clients.isConnected r.context)
      rw [show Trace.writtenTo _ service = _ from hwritten] at ho
      split at ho
      · obtain ⟨l, hl, ho⟩ := List.mem_flatMap.mp ho
        exact (l.step_pays (h.outputs service l hl) h.seen).1 o ho
      · cases ho

theorem steps_legible : Steps KeepsLegible where
  refl _ h := ⟨h, Trace.legible_of_nil fun _ => rfl⟩
  trans hfirst hrest h := by
    obtain ⟨hnext, htrace⟩ := hfirst h
    obtain ⟨hlast, hmore⟩ := hrest hnext
    exact ⟨hlast, htrace.append hmore⟩
  join r h := ⟨⟨h.commands, h.neighbors, h.names, h.outputs⟩, r.clients.register_quiet.legible⟩
  receive r reads h := by
    refine ⟨⟨h.commands, h.neighbors, h.names, h.outputs⟩, Trace.legible_of_nil fun other => ?_⟩
    refine Clients.visit_writtenTo _ _ _ fun service c => ?_
    obtain ⟨pieces, inputEnded, closed, -, -, htraffic⟩ := Clients.readClient_spec service (reads service) c
    refine (congrArg Traffic.written (htraffic other)).trans ?_
    split <;> rfl
  dispatch := dispatchFor_legible
  tick := tick_legible
  send r writes h := by
    refine ⟨⟨h.commands, h.neighbors, h.names, h.outputs⟩, Trace.legible_of_nil fun other => ?_⟩
    refine Clients.visit_writtenTo _ _ _ fun service c => ?_
    obtain ⟨sent, outbound, closed, -, -, -, htraffic⟩ := Clients.flushClient_spec service (writes service) c
    refine (congrArg Traffic.written (htraffic other)).trans ?_
    split <;> rfl
  drop := dropService_legible

/-! ## Runs -/

/-- What the protocol does to the sessions before a turn, how long that takes, and what the outside does in the
turn. -/
structure Period where
  changes : List Change := []
  elapsed : Nat := 0
  outside : Surroundings := {}

def Period.round (p : Period) : Round Table where
  change t := p.changes.foldl Change.apply t
  elapsed := p.elapsed
  outside := p.outside

theorem run_legible (r : Reactor Table Listing) {periods : List Period}
    (hnames : ∀ p ∈ periods, ∀ c ∈ p.changes, c.NamesUnbroken) :
    KeepsLegible r (r.run (periods.map Period.round)).2 (r.run (periods.map Period.round)).1 := by
  induction periods generalizing r with
  | nil => exact steps_legible.refl r
  | cons p later ih =>
    obtain ⟨hfirst, hlater⟩ := List.forall_mem_cons.mp hnames
    rw [List.map_cons, run_cons]
    intro h
    have hawait : (r.await p.round).Legible :=
      ⟨h.commands, h.neighbors, h.names.changes hfirst, h.outputs⟩
    have hturn := steps_legible.turn (r.await p.round) p.outside
    exact steps_legible.trans hturn (ih _ hlater) hawait

/-- A reactor with an idle session for each neighbor. -/
def serving (registry : Registry Table Listing) (configuration : Configuration) : Reactor Table Listing :=
  { registry, sessions := .ofConfiguration configuration, configuration }

end Reactor

/-- The responses to a client, and how it finds them in the bytes that it is sent. -/
structure Recovered (trace : Trace) (service : Service) (finished : List Exchange)
    (unfinished : Option Exchange) : Prop where
  /-- The exchanges are for its commands in the order in which they were received. -/
  order : Exchange.lines finished unfinished <+: commands (trace.receivedFrom service)
  /-- A finished exchange is lines of payload and then one marker. -/
  whole : ∀ x ∈ finished, ∃ (lines : List String) (answer : Answer), (∀ line ∈ lines, Payload line) ∧
    x.output = lines.map .line ++ [.marker answer]
  /-- The unfinished one is lines of payload. -/
  part : ∀ x ∈ unfinished, ∃ lines : List String, (∀ line ∈ lines, Payload line) ∧
    x.output = lines.map .line
  /-- Cut at line feeds, the bytes are the lines and markers of the exchanges, one exchange after the other. -/
  pieces : (encode (trace.writtenTo service)).splitOn lineFeed =
    (Exchange.written finished unfinished).map (fun o => Utf8.encode o.render) ++ [[]]
  /-- What is taken for a marker is one. -/
  markers : ∀ o ∈ Exchange.written finished unfinished, ∀ answer : Answer,
    Utf8.encode o.render = Utf8.encode answer.render ↔ o = .marker answer
  /-- The complete lines that its socket has taken are the first of these. -/
  sent : ((trace.sentTo service).splitOn lineFeed).dropLast <+:
    (Exchange.written finished unfinished).map (fun o => Utf8.encode o.render)

/-- Whatever a configuration and the peers say, and whatever a client asks: if no OPEN message names a
capability with a line feed, the client finds the lines and the marker of each of its responses again. -/
theorem responses_recovered {text : String} {configuration : Configuration}
    {registry : Registry Table Listing} (hparse : Configuration.parse text = .ok configuration)
    (hregistry : Registry.standard = .ok registry) {periods : List Reactor.Period}
    (hnames : ∀ p ∈ periods, ∀ c ∈ p.changes, c.NamesUnbroken) (service : Service) :
    let trace := ((Reactor.serving registry configuration).run (periods.map Reactor.Period.round)).2
    (∀ line, .line line ∈ trace.writtenTo service → Payload line) ∧
      ∃ finished unfinished, Recovered trace service finished unfinished := by
  intro trace
  let start := Reactor.serving registry configuration
  have hstart : start.Legible := {
    commands := Registry.standard_pays hregistry
    neighbors := (Configuration.isDeclared_of_parse hparse).neighbors
    names := .ofConfiguration configuration
    outputs := fun _ _ hl => nomatch hl }
  have hlegible := (Reactor.run_legible start hnames hstart).2 service
  obtain ⟨finished, unfinished, h⟩ := (Conversation.start (decide (service.number ≤ 0))).acts
    ((Reactor.plays_course.run start (periods.map Reactor.Period.round)).acts service)
  rw [Traffic.empty_append] at h
  have hwritten : trace.writtenTo service = Exchange.written finished unfinished := h.written
  rw [hwritten] at hlegible
  have hpayload : ∀ x ∈ finished ++ unfinished.toList, ∀ line, .line line ∈ x.output → Payload line :=
    fun x hx line hline => hlegible (.line line) (List.mem_flatMap.mpr ⟨x, hx, hline⟩)
  have hpieces := splitOn_encode hlegible
  refine ⟨fun line hline => hlegible (.line line) (hwritten ▸ hline), finished, unfinished, ?_⟩
  exact {
    order := h.order
    whole := fun x hx => by
      obtain ⟨lines, answer, houtput⟩ := (h.whole x hx).marked
      have hlines := hpayload x (List.mem_append_left _ hx)
      simp only [houtput] at hlines
      exact ⟨lines, answer, fun line hline => hlines line (by simp [hline]), houtput⟩
    part := fun x hx => by
      obtain rfl := Option.mem_def.mp hx
      obtain ⟨rest, hunderway⟩ := h.unfinished.underway
      obtain ⟨lines, houtput⟩ := hunderway.markerless
      have hlines := hpayload x (by simp)
      simp only [houtput] at hlines
      exact ⟨lines, fun line hline => hlines line (by simp [hline]), houtput⟩
    pieces := hwritten ▸ hpieces
    markers := fun o ho answer => encode_eq_marker_iff (hlegible o ho)
    sent := by
      have hprefix := dropLast_splitOn_prefix h.sent
      rw [show (trace.traffic service).written = _ from hwritten, hpieces, List.dropLast_concat] at hprefix
      exact hprefix }

/-- An OPEN message that announces one capability, while a client asks for the extensive listing. -/
def Reactor.announced (capability : String) : List Reactor.Period :=
  let key : Key := ⟨.v4 ⟨0, 0, 0, 0⟩, .v4 ⟨10, 0, 0, 1⟩⟩
  let data : OpenData :=
    { peerAs := 65001, routerId := ⟨192, 0, 2, 1⟩, holdTime := 90
      capabilities := .ofList [(capability, ())], families := {}, addPath := {} }
  let question := "show neighbor extensive\n".toList.map fun c => UInt8.ofNat c.toNat
  { changes := [.event key (.opened data)]
    outside := { arrivals := 1, reads := fun _ => [.data question] } } :: List.replicate 28 {}

theorem extensive_listing_recovered :
    let n : Neighbor :=
      { peerAddress := .v4 ⟨10, 0, 0, 1⟩, localAs := 65000, peerAs := 65001, holdTime := 180 }
    let configuration : Configuration := { neighbors := [n] }
    let registry : Registry Table Listing := { commands := [Teardown.descriptor, ShowNeighbor.descriptor] }
    let periods := Reactor.announced "graceful-restart"
    let trace := ((Reactor.serving registry configuration).run (periods.map Reactor.Period.round)).2
    Configuration.parse "neighbor 10.0.0.1 \x7b local-as 65000; peer-as 65001; \x7d" = .ok configuration ∧
      Registry.standard = .ok registry ∧ (∀ p ∈ periods, ∀ c ∈ p.changes, c.NamesUnbroken) ∧
      (trace.writtenTo ⟨1⟩).length = 28 ∧
      ∃ finished unfinished, Recovered trace ⟨1⟩ finished unfinished := by
  intro n configuration registry periods trace
  have hparse : Configuration.parse "neighbor 10.0.0.1 \x7b local-as 65000; peer-as 65001; \x7d" =
      .ok configuration := toOption_eq_some_iff.mp (by decide +kernel)
  have hregistry : Registry.standard = .ok registry := by rfl
  have hnames : ∀ p ∈ periods, ∀ c ∈ p.changes, c.NamesUnbroken := by decide +kernel
  have hlength : (trace.writtenTo ⟨1⟩).length = 28 := by decide +kernel
  exact ⟨hparse, hregistry, hnames, hlength, (responses_recovered hparse hregistry hnames ⟨1⟩).2⟩

/-- A name with line feeds is printed as it is: what stands between two of them is taken for a marker. -/
theorem name_taken_for_marker :
    let n : Neighbor :=
      { peerAddress := .v4 ⟨10, 0, 0, 1⟩, localAs := 65000, peerAs := 65001, holdTime := 180 }
    let registry : Registry Table Listing := { commands := [Teardown.descriptor, ShowNeighbor.descriptor] }
    let periods := Reactor.announced "x\ndone\ny"
    let trace := ((Reactor.serving registry { neighbors := [n] }).run (periods.map Reactor.Period.round)).2
    ∃ line, .line line ∈ trace.writtenTo ⟨1⟩ ∧ ¬ Text.Unbroken line ∧
      Utf8.encode Answer.done.render ∈ (Utf8.encode line).splitOn lineFeed := by
  intro n registry periods trace
  refine ⟨Report.capabilityRow "x\ndone\ny" ⟨some false, some true⟩, by decide +kernel, by decide, ?_⟩
  rw [Utf8.encode_eq, Utf8.encode_eq]
  decide +kernel

end RouteServer
