import RouteServer.Proofs.Reactor.Conversation
import RouteServer.Proofs.Reactor.Phases
import RouteServer.Proofs.Reactor.Tasks
import RouteServer.Proofs.Schedule.Lifecycle

/-! # Responses over a run of the reactor

Between two turns the sessions may change in any way and time may pass; in a turn clients may join, and
their sockets may give and take what they like. Whatever happens, each client gets whole responses to its own
commands, one after the other.
-/

namespace RouteServer

open Channel Command Schedule

variable {P σ : Type} [OutputSequence σ]

/-- What a client has been sent by a run: the responses to its commands. -/
structure Served (registry : Registry P σ) (configuration : Configuration) (service : Service)
    (r : Reactor P σ) (trace : Trace) (finished : List Exchange) (unfinished : Option Exchange) :
    Prop where
  /-- The lines written to it are those of its exchanges, one exchange after the other. -/
  written : trace.writtenTo service =
    finished.flatMap (·.output) ++ unfinished.toList.flatMap (·.output)
  /-- A finished exchange is a whole response: its lines, then exactly one marker. -/
  whole : ∀ x ∈ finished, Responds registry configuration service x.line x.output ∧
    ∃ (lines : List String) (answer : Answer), x.output = lines.map .line ++ [.marker answer]
  /-- The unfinished one is a response up to some step, without a marker. -/
  part : ∀ x ∈ unfinished, (∃ rest, Underway registry configuration service x.line x.output rest) ∧
    ∃ lines : List String, x.output = lines.map .line
  /-- The exchanges are for its commands in the order in which they were received. -/
  order : finished.map (·.line) ++ unfinished.toList.map (·.line) <+:
    commands (trace.receivedFrom service)
  /-- As long as it is there, all its other commands wait. -/
  waiting : ∀ c, r.clients.client? service = some c →
    finished.map (·.line) ++ unfinished.toList.map (·.line) ++ c.lines =
      commands (trace.receivedFrom service)
  /-- Its socket has taken nothing but the bytes of these lines. -/
  sent : trace.sentTo service <+: encode (trace.writtenTo service)
  /-- A task that writes to it has been its own task from the beginning. -/
  own : ∀ id output, .wrote service (some id) output ∈ trace →
    ∀ e ∈ trace.about id, e.Concerns service id

theorem responses_in_order [Session.Provider P] (registry : Registry P σ) (sessions : P)
    (configuration : Configuration) (rounds : List (Round P)) (service : Service) :
    let (r, trace) := ({ registry, sessions, configuration } : Reactor P σ).run rounds
    ∃ finished unfinished, Served registry configuration service r trace finished unfinished := by
  let start : Reactor P σ := { registry, sessions, configuration }
  obtain ⟨finished, unfinished, h⟩ := (Conversation.start (decide (service.number ≤ 0))).acts
    ((Reactor.plays_course.run start rounds).acts service)
  obtain ⟨operations, -, htasks⟩ := Reactor.runs_course.run start rounds
  have hlines : Exchange.lines finished unfinished =
      finished.map (·.line) ++ unfinished.toList.map (·.line) := List.map_append ..
  refine ⟨finished, unfinished, ?_, fun x hx => ⟨h.whole x hx, (h.whole x hx).marked⟩, fun x hx => ?_,
    hlines ▸ h.order, fun c hc => hlines ▸ (h.present c hc).1.lines, h.sent, fun id output hw => ?_⟩
  · exact h.written.trans (List.flatMap_append ..)
  · obtain rfl := Option.mem_def.mp hx
    obtain ⟨rest, hunderway⟩ := h.unfinished.underway
    exact ⟨⟨rest, hunderway⟩, hunderway.markerless⟩
  · obtain ⟨owner, howner⟩ := Scheduler.exists_owner operations id
    rw [← htasks id] at howner
    obtain ⟨rfl, -⟩ := howner _ (Trace.mem_about.mpr ⟨hw, rfl⟩)
    exact howner

end RouteServer
