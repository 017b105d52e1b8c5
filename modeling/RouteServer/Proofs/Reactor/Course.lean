import RouteServer.Reactor

/-! # Along the course of the reactor

A turn goes through phases, and a run through turns. What is true of every step of a phase, and can be put
together, is true of a whole turn; if it is true of all that may happen between two turns, it is true of a
whole run.
-/

namespace RouteServer

open Channel Schedule

/-- What happens to the sessions and the clock before a turn, and what the outside does in it. -/
structure Round (P : Type) where
  change : P → P := id
  elapsed : Nat := 0
  outside : Surroundings := {}

namespace Reactor

variable {P σ : Type}

/-- The reactor at the moment of its next turn. -/
def await (r : Reactor P σ) (round : Round P) : Reactor P σ :=
  { r with sessions := round.change r.sessions, scheduler := r.scheduler.elapse round.elapsed }

/-- The part of a turn before the tasks get their steps: clients join, their input is read, and their
commands are dispatched. -/
def intake (r : Reactor P σ) (outside : Surroundings) : Turn P σ :=
  (r.accept outside.arrivals)
    |>.andThen (·.read outside.reads)
    |>.andThen (fun r => r.dispatchAll r.clients.withPendingLines)

theorem intake_reactor (r : Reactor P σ) (outside : Surroundings) : (r.intake outside).reactor =
    let read := ((r.accept outside.arrivals).reactor.read outside.reads).reactor
    (read.dispatchAll read.clients.withPendingLines).reactor := by
  simp only [intake, Turn.andThen]

/-! ## Steps of a turn -/

/-- A relation between a state, what happens and a later state that every step of a turn keeps to, apart from
the tick of the tasks. -/
structure StepsButTicks (R : Reactor P σ → Trace → Reactor P σ → Prop) : Prop where
  refl : ∀ r, R r [] r
  trans : ∀ {r next last trace more}, R r trace next → R next more last → R r (trace ++ more) last
  join : ∀ r, R r r.clients.register.2.2 { r with clients := r.clients.register.2.1 }
  receive : ∀ r reads, R r (r.clients.readAvailable reads).2.2
    { r with clients := (r.clients.readAvailable reads).1 }
  dispatch : ∀ r service, R r (r.dispatchFor service).trace (r.dispatchFor service).reactor
  send : ∀ r writes, R r (r.clients.flush writes).2.2
    { r with clients := (r.clients.flush writes).1 }
  drop : ∀ r service, R r (r.dropService service).trace (r.dropService service).reactor

namespace StepsButTicks

variable {R : Reactor P σ → Trace → Reactor P σ → Prop} (h : StepsButTicks R) (r : Reactor P σ)
include h

theorem accept (n : Nat) : R r (r.accept n).trace (r.accept n).reactor := by
  induction n generalizing r with
  | zero => exact h.refl r
  | succ n ih => exact h.trans (h.join r) (ih _)

theorem dropServices (services : List Service) :
    R r (r.dropServices services).trace (r.dropServices services).reactor := by
  induction services generalizing r with
  | nil => exact h.refl r
  | cons service rest ih => exact h.trans (h.drop r service) (ih _)

theorem dispatchAll (services : List Service) :
    R r (r.dispatchAll services).trace (r.dispatchAll services).reactor := by
  induction services generalizing r with
  | nil => exact h.refl r
  | cons service rest ih => exact h.trans (h.dispatch r service) (ih _)

theorem read (reads : Service → List ReadOutcome) :
    R r (r.read reads).trace (r.read reads).reactor :=
  h.trans (h.receive r reads) (h.dropServices _ _)

theorem flush (writes : Service → List WriteOutcome) :
    R r (r.flush writes).trace (r.flush writes).reactor :=
  h.trans (h.send r writes) (h.dropServices _ _)

theorem andThen {t : Turn P σ} {phase : Reactor P σ → Turn P σ} (ht : R r t.trace t.reactor)
    (hphase : ∀ r : Reactor P σ, R r (phase r).trace (phase r).reactor) :
    R r (t.andThen phase).trace (t.andThen phase).reactor := h.trans ht (hphase t.reactor)

theorem intake (outside : Surroundings) : R r (r.intake outside).trace (r.intake outside).reactor := by
  have haccept := h.accept r outside.arrivals
  have hread := h.andThen r haccept fun r => h.read r outside.reads
  exact h.andThen r hread fun r => h.dispatchAll r r.clients.withPendingLines

end StepsButTicks

variable [OutputSequence σ] [Session.Provider P]

/-- A tick keeps to the relation too. -/
structure Steps (R : Reactor P σ → Trace → Reactor P σ → Prop) : Prop extends StepsButTicks R where
  tick : ∀ r, R r r.tick.trace r.tick.reactor

theorem Steps.turn {R : Reactor P σ → Trace → Reactor P σ → Prop} (h : Steps R) (r : Reactor P σ)
    (outside : Surroundings) : R r (r.turn outside).trace (r.turn outside).reactor := by
  have htick := h.andThen r (h.intake r outside) h.tick
  have hflush := h.andThen r htick fun r => h.flush r outside.writes
  exact h.andThen r hflush fun r => h.dropServices r _

/-! ## Runs -/

/-- Several turns. -/
def run (r : Reactor P σ) : List (Round P) → Reactor P σ × Trace
  | [] => (r, [])
  | round :: later =>
    let t := (r.await round).turn round.outside
    let (last, more) := t.reactor.run later
    (last, t.trace ++ more)

theorem run_cons (r : Reactor P σ) (round : Round P) (later : List (Round P)) :
    let t := (r.await round).turn round.outside
    r.run (round :: later) = ((t.reactor.run later).1, t.trace ++ (t.reactor.run later).2) := rfl

/-- Whatever happens between two turns keeps to the relation too. -/
structure Course (R : Reactor P σ → Trace → Reactor P σ → Prop) : Prop extends Steps R where
  await : ∀ r round, R r [] (r.await round)

theorem Course.run {R : Reactor P σ → Trace → Reactor P σ → Prop} (h : Course R) (r : Reactor P σ)
    (rounds : List (Round P)) : R r (r.run rounds).2 (r.run rounds).1 := by
  induction rounds generalizing r with
  | nil => exact h.refl r
  | cons round later ih =>
    have hturn := h.trans (h.await r round) (h.turn (r.await round) round.outside)
    rw [List.nil_append] at hturn
    rw [run_cons]
    exact h.trans hturn (ih _)

end Reactor

end RouteServer
