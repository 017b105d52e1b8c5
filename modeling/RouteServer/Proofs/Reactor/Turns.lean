import RouteServer.Command.Standard
import RouteServer.Proofs.Reactor.Due
import RouteServer.Proofs.Reactor.Tasks
import RouteServer.Proofs.Schedule.Rotation
import RouteServer.Session.Recorded

/-! # What a turn does for each client

The oldest command of each client without a task is dispatched, and then every task is stepped, also one that was
scheduled a moment before. So every client moves by one unit, whatever the others do.
-/

namespace RouteServer

open Channel Command Schedule

namespace Reactor

variable {P σ : Type} {r : Reactor P σ} {service : Service}

/-! ## Reading -/

theorem accept_scheduler (r : Reactor P σ) (n : Nat) : (r.accept n).reactor.scheduler = r.scheduler := by
  induction n generalizing r with
  | zero => rfl
  | succ n ih => exact ih _

/-- A client that does not fail while it is read keeps its tasks, whichever others fail. -/
theorem read_kept {reads : Service → List ReadOutcome} {c : Client} (hc : r.clients.client? service = some c)
    (hkept : (Clients.readClient (reads service) service c).failed = false) :
    (r.read reads).reactor.clients.client? service = some (Clients.readClient (reads service) service c).client ∧
      (r.read reads).reactor.scheduler.tasksOf service = r.scheduler.tasksOf service := by
  have hnamed : service ∉ (r.clients.readAvailable reads).2.1 := by
    intro hmem
    obtain ⟨c', hc', hfailed⟩ := Clients.mem_visit_failed.mp hmem
    obtain rfl := Option.some.inj (hc.symm.trans hc')
    rw [hkept] at hfailed
    cases hfailed
  have htasks := dropServices_resets (·.scheduler.tasksOf service) []
    (fun r other => r.scheduler.tasksOf_cancelFor other service)
    { r with clients := (r.clients.readAvailable reads).1 } (r.clients.readAvailable reads).2.1
  rw [if_neg hnamed] at htasks
  refine ⟨?_, htasks⟩
  rw [read, dropServices_client?, if_neg hnamed]
  exact (Clients.visit_client? ..).trans (by rw [hc, Option.map_some])

/-! ## Steps of tasks -/

theorem Taskless.stepped {trace : Trace} (h : Taskless trace) : trace.stepped = [] := by
  rw [Trace.stepped, List.filterMap_eq_nil_iff]
  intro e he
  cases e with
  | stepped id result => cases h _ he
  | _ => rfl

theorem stepped_but_ticks : StepsButTicks fun (_ : Reactor P σ) (trace : Trace) _ => trace.stepped = [] where
  refl _ := rfl
  trans h h' := by rw [Trace.stepped_append, h, h', List.append_nil]
  join _ := rfl
  receive r reads := (r.receive_taskless reads).stepped
  dispatch r service := by
    unfold dispatchFor
    split
    · rfl
    · split
      · rfl
      · rw [Trace.stepped_append, (dispatchedNote_taskless _ _).stepped,
          (dispatch_taskless _ _ _ _ _ _).stepped, List.append_nil]
  send r writes := (r.send_taskless writes).stepped
  drop r service := by
    have hcancelled : (r.scheduler.cancelFor service).2.stepped = [] := by
      simp only [Scheduler.cancelFor, Trace.stepped_append]
      split <;> simp [Trace.stepped, Task.enter, Task.note]
    have hnotes : ∀ transitions : List Transition, Trace.stepped (transitions.map departedNote) = [] := by
      intro transitions
      simp [Trace.stepped, departedNote]
    have hremoved : (r.clients.remove service).2.stepped = [] := by
      unfold Clients.remove
      split <;> rfl
    simp only [dropService, Trace.stepped_append, hcancelled, hnotes, hremoved, List.append_nil]

/-- The last two phases of a turn. -/
def leave (r : Reactor P σ) (writes : Service → List WriteOutcome) : Turn P σ :=
  (r.flush writes).andThen dropFinished

theorem leave_stepped (r : Reactor P σ) (writes : Service → List WriteOutcome) :
    (r.leave writes).trace.stepped = [] :=
  stepped_but_ticks.andThen r (stepped_but_ticks.flush r writes) fun r => stepped_but_ticks.dropServices r _

variable [OutputSequence σ] [Session.Provider P]

theorem turn_trace (r : Reactor P σ) (outside : Surroundings) :
    (r.turn outside).trace = (r.intake outside).trace ++ (r.intake outside).reactor.tick.trace ++
      ((r.intake outside).reactor.tick.reactor.leave outside.writes).trace := by
  have hturn : r.turn outside =
      (((r.intake outside).andThen tick).andThen (·.flush outside.writes)).andThen dropFinished := rfl
  rw [hturn]
  simp only [Turn.andThen, leave, List.append_assoc]

theorem tick_stepped (hconnected : ∀ t ∈ r.scheduler.queue, r.clients.isConnected t.service = true) :
    r.tick.trace.stepped =
      r.scheduler.queue.map fun t => (t.id, (OutputSequence.step r.context t.sequence).1) := by
  unfold tick
  split
  · rename_i hempty
    rw [List.isEmpty_iff.mp hempty]
    rfl
  · have hstepped : (r.scheduler.tick r.clients.isConnected r.context).2.stepped = _ := Scheduler.tick_stepped
    rwa [List.filter_eq_self.mpr hconnected] at hstepped

theorem tick_queue (h : r.scheduler.Numbered) : r.tick.reactor.scheduler.queue =
    (r.scheduler.queue.filter fun t => ¬ Over r.tick.trace t.id).map (Task.continued r.context) := by
  unfold tick
  split
  · rename_i hempty
    rw [List.isEmpty_iff.mp hempty]
    rfl
  · exact Scheduler.tick_queue h

/-! ## A turn -/

/-- What a turn does as a whole. `read` is the state after reading, and `before` the one in which the tick begins. -/
structure KeepsToUnits (r : Reactor P σ) (outside : Surroundings) (read before : Reactor P σ) : Prop where
  /-- The commands that are due after reading are dispatched before the tick, and nothing else is. -/
  dispatched : ∃ entering dispatched leaving : Trace,
    (r.turn outside).trace = entering ++ dispatched ++ before.tick.trace ++ leaving ∧
    carryOut read.registry read.configuration read.due read.sessions read.scheduler =
      ⟨before.sessions, before.scheduler, dispatched⟩
  single : (read.due.map (·.1)).Nodup
  /-- Every task that is there when the tick begins is stepped once, and nothing else is stepped in the turn. -/
  stepped : (r.turn outside).trace.stepped =
    before.scheduler.queue.map fun t => (t.id, (OutputSequence.step before.context t.sequence).1)
  distinct : (before.scheduler.queue.map (·.id)).Nodup
  /-- What is left of the tasks is one step further. -/
  left : before.tick.reactor.scheduler.queue =
    (before.scheduler.queue.filter fun t => ¬ Over before.tick.trace t.id).map (Task.continued before.context)

/-- What a turn does for one client, of which reading has made `c`. It is told by this client and its tasks alone,
whatever the others send, leave undone or fail at. -/
structure MovesOn (r read before : Reactor P σ) (service : Service) (c : Client) : Prop where
  client : read.clients.client? service = some c
  tasks : read.scheduler.tasksOf service = r.scheduler.tasksOf service
  /-- Its oldest command is due if it has no task, and no other command is. -/
  due : ∀ line, (service, line) ∈ read.due ↔
    r.scheduler.tasksOf service = [] ∧ c.lines.head? = some line
  /-- The other commands wait. -/
  lines : before.clients.lines? service =
    some (if r.scheduler.isBusy service then c.lines else c.lines.tail)
  /-- It keeps its task until the tick, and gets a new one by a command only. -/
  kept : ∃ scheduled, before.scheduler.tasksOf service = r.scheduler.tasksOf service ++ scheduled ∧
    ∀ t ∈ scheduled, ∃ line, (service, line) ∈ read.due

theorem Settled.keepsToUnits (h : Settled r) (outside : Surroundings)
    (hnumbered : (r.intake outside).reactor.scheduler.Numbered) :
    KeepsToUnits r outside ((r.accept outside.arrivals).reactor.read outside.reads).reactor
      (r.intake outside).reactor := by
  have hconnected := (h.connected.accept outside.arrivals).read outside.reads
  constructor
  case dispatched =>
    refine ⟨(r.accept outside.arrivals).trace ++ ((r.accept outside.arrivals).reactor.read outside.reads).trace,
      _, ((r.intake outside).reactor.tick.reactor.leave outside.writes).trace, ?_,
      (dispatchAll_due hconnected).1⟩
    exact turn_trace r outside
  case single => exact due_services_nodup _
  case stepped =>
    rw [turn_trace, Trace.stepped_append, Trace.stepped_append, leave_stepped, stepped_but_ticks.intake,
      List.append_nil, List.nil_append, tick_stepped (h.connected_intake outside)]
  case distinct => exact List.pairwise_map.mpr hnumbered.distinct
  case left => exact tick_queue hnumbered

omit [Session.Provider P] in
theorem Settled.movesOn (h : Settled r) (outside : Surroundings) {c : Client}
    (hc : (r.accept outside.arrivals).reactor.clients.client? service = some c)
    (hkept : (Clients.readClient (outside.reads service) service c).failed = false) :
    MovesOn r ((r.accept outside.arrivals).reactor.read outside.reads).reactor (r.intake outside).reactor service
      (Clients.readClient (outside.reads service) service c).client := by
  have hconnected := (h.connected.accept outside.arrivals).read outside.reads
  obtain ⟨hclient, htasks⟩ := read_kept hc hkept
  rw [accept_scheduler] at htasks
  rw [intake_reactor]
  obtain ⟨hcarried, hlines⟩ := dispatchAll_due hconnected
  -- From here on the state after reading matters only by this client and its tasks.
  generalize ((r.accept outside.arrivals).reactor.read outside.reads).reactor = read at *
  generalize (Clients.readClient (outside.reads service) service c).client = heard at *
  obtain ⟨scheduled, hqueue, hcommand⟩ :=
    carryOut_queue read.registry read.configuration read.due read.sessions read.scheduler
  simp only [hcarried] at hqueue
  have hbusy : read.scheduler.isBusy service = true ↔ r.scheduler.isBusy service = true := by
    rw [Scheduler.isBusy_iff, Scheduler.isBusy_iff, htasks]
  have hwaiting : read.clients.lines? service = some heard.lines := by
    rw [Clients.lines?, hclient, Option.map_some]
  have hdue : read.oldest? service = if r.scheduler.isBusy service then none else heard.lines.head? := by
    rw [oldest?, hwaiting, Option.bind_some]
    simp only [hbusy]
  constructor
  case client => exact hclient
  case tasks => exact htasks
  case due =>
    intro line
    rw [mem_due, hdue, Option.ite_none_left_eq_some, Scheduler.isBusy_iff, not_not]
  case lines =>
    rw [hlines, hwaiting, hdue]
    by_cases hidle : r.scheduler.isBusy service = true
    · simp [hidle]
    · cases heard.lines <;> simp [hidle]
  case kept =>
    refine ⟨scheduled.filter fun t => t.service = service, ?_, fun t ht => ?_⟩
    · rw [← htasks]
      simp only [Scheduler.tasksOf, hqueue, List.filter_append]
    · obtain ⟨hmem, hown⟩ := List.mem_filter.mp ht
      obtain rfl : t.service = service := of_decide_eq_true hown
      exact hcommand t hmem

/-- In every turn, every client that does not fail while it is read moves by one unit: a command if it has no task,
and a step of each task that it has when the tick begins. -/
theorem each_client_moves_by_one_unit (registry : Registry P σ) (sessions : P) (configuration : Configuration)
    (rounds : List (Round P)) (round : Round P) :
    let r := (({ registry, sessions, configuration } : Reactor P σ).run rounds).1.await round
    let accepted := (r.accept round.outside.arrivals).reactor
    let read := (accepted.read round.outside.reads).reactor
    let before := (r.intake round.outside).reactor
    KeepsToUnits r round.outside read before ∧
      ∀ service c, accepted.clients.client? service = some c →
        (Clients.readClient (round.outside.reads service) service c).failed = false →
        MovesOn r read before service (Clients.readClient (round.outside.reads service) service c).client := by
  intro r accepted read before
  let start : Reactor P σ := { registry, sessions, configuration }
  have hsettled : Settled r := ((settled_start registry sessions configuration).run rounds).await round
  have hruns := runs_course.trans (runs_course.run start rounds)
    (runs_course.trans (runs_course.await _ round) (runs_course.intake r round.outside))
  have hnumbered : before.scheduler.Numbered := by
    obtain ⟨operations, hscheduler, -⟩ := hruns
    rw [hscheduler]
    exact Scheduler.run_numbered Scheduler.numbered_empty operations
  exact ⟨hsettled.keepsToUnits round.outside hnumbered, fun service c => hsettled.movesOn round.outside⟩

theorem moved_beside_broken_connection :
    let registry : Registry Session.Recorded Listing :=
      { commands := [Teardown.descriptor, ShowNeighbor.descriptor] }
    let command := Utf8.encode "show neighbor\n"
    let rounds : List (Round Session.Recorded) :=
      [{ outside := { arrivals := 3, reads := fun service => if service = ⟨1⟩ then [] else [.data command] } }]
    let round : Round Session.Recorded := { outside :=
      { reads := fun service => if service = ⟨3⟩ then [.failed .connectionReset] else [.data (command ++ command)] } }
    let r := (({ registry, sessions := {}, configuration := {} } : Reactor Session.Recorded Listing).run
      rounds).1.await round
    let accepted := (r.accept round.outside.arrivals).reactor
    let read := (accepted.read round.outside.reads).reactor
    let before := (r.intake round.outside).reactor
    accepted.clients.client? ⟨1⟩ = some {} ∧
      (Clients.readClient (round.outside.reads ⟨1⟩) ⟨1⟩ {}).failed = false ∧
      MovesOn r read before ⟨1⟩ (Clients.readClient (round.outside.reads ⟨1⟩) ⟨1⟩ {}).client := by
  intro registry command rounds round r accepted read before
  have hclient : accepted.clients.client? ⟨1⟩ = some {} := by decide +kernel
  have hkept : (Clients.readClient (round.outside.reads ⟨1⟩) ⟨1⟩ {}).failed = false := by decide +kernel
  have hunits := each_client_moves_by_one_unit registry ({} : Session.Recorded) {} rounds round
  exact ⟨hclient, hkept, hunits.2 ⟨1⟩ {} hclient hkept⟩

end Reactor

end RouteServer
