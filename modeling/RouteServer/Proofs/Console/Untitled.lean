import RouteServer.Proofs.Console.Run

/-! # Tasks without their lines

A task carries the line that queued it, and nothing but the log shows this line. With the lines of its tasks wiped
out, a console goes on alike: it dispatches with the same results, and its clients get the same.
-/

namespace RouteServer

open Command Schedule

variable {P σ : Type}

/-! ## Effects -/

/-- An event, unless it is only about how a command was written: what the log is told, and how a line is read. -/
def Event.effect? : Event → Option Event
  | .note _ => none
  | .invoked _ => none
  | e => some e

namespace Trace

def effects (t : Trace) : Trace := t.filterMap Event.effect?

theorem written_effects (t : Trace) : t.effects.written = t.written := by
  rw [effects, written, List.filterMap_filterMap]
  congr 1
  funext e
  cases e <;> rfl

end Trace

/-! ## Schedulers -/

namespace Schedule

/-- A task without the line that queued it. -/
def Task.untitled (t : Task σ) : Task σ := { t with command := "" }

def Scheduler.untitled (s : Scheduler σ) : Scheduler σ := { s with queue := s.queue.map Task.untitled }

theorem Scheduler.untitled_eq_iff {s s' : Scheduler σ} : s.untitled = s'.untitled ↔
    s.queue.map Task.untitled = s'.queue.map Task.untitled ∧ s.lastId = s'.lastId ∧ s.now = s'.now := by
  simp only [untitled, Scheduler.mk.injEq]

theorem Scheduler.untitled_untitled (s : Scheduler σ) : s.untitled.untitled = s.untitled := by
  simp only [untitled, List.map_map]
  rfl

theorem Scheduler.untitled_schedule {s s' : Scheduler σ} (h : s.untitled = s'.untitled) (service : Service)
    (command command' : String) (sequence : σ) : (s.schedule service command sequence).2.1.untitled =
      (s'.schedule service command' sequence).2.1.untitled := by
  obtain ⟨hqueue, hlast, hnow⟩ := untitled_eq_iff.mp h
  refine untitled_eq_iff.mpr ⟨?_, congrArg (· + 1) hlast, hnow⟩
  simp only [schedule, List.map_append, hqueue, hlast, hnow, List.map_singleton, Task.untitled]

theorem Scheduler.entrants_untitled (s : Scheduler σ) (operation : Operation σ) :
    s.untitled.entrants operation = s.entrants operation := by
  cases operation <;> rfl

variable [OutputSequence σ]

theorem Task.advance_untitled (connected : Service → Bool) (context : StepContext) (now : Nat) (t : Task σ) :
    (t.untitled.advance connected context now).1 = (t.advance connected context now).1.map untitled ∧
      (t.untitled.advance connected context now).2.effects = (t.advance connected context now).2.effects := by
  have hservice : t.untitled.service = t.service := rfl
  have hsequence : t.untitled.sequence = t.sequence := rfl
  have hstate : t.untitled.state = t.state := rfl
  unfold advance
  rw [hservice, hsequence, hstate]
  cases connected t.service with
  | false => exact ⟨rfl, rfl⟩
  | true =>
    by_cases hpending : t.state = .pending <;>
      rcases OutputSequence.step context t.sequence with ⟨cause | (text | _ | _), next⟩ <;>
        simp only [hpending] <;> exact ⟨rfl, rfl⟩

theorem Task.undergo_untitled (now : Nat) (t : Task σ) (operation : Operation σ) :
    (t.untitled.undergo now operation).1 = (t.undergo now operation).1.map untitled ∧
      (t.untitled.undergo now operation).2.effects = (t.undergo now operation).2.effects := by
  cases operation with
  | tick connected context => exact t.advance_untitled connected context now
  | cancel service =>
    have hservice : t.untitled.service = t.service := rfl
    simp only [undergo, hservice]
    split <;> exact ⟨rfl, rfl⟩
  | _ => exact ⟨rfl, rfl⟩

namespace Scheduler

theorem effects_perform (s : Scheduler σ) (operation : Operation σ) : (s.perform operation).2.effects =
    s.queue.flatMap fun t => (t.undergo s.now operation).2.effects :=
  s.filterMap_perform operation fun _ => rfl

theorem perform_untitled (s : Scheduler σ) (operation : Operation σ) :
    (s.untitled.perform operation).1.untitled = (s.perform operation).1.untitled ∧
      (s.untitled.perform operation).2.effects = (s.perform operation).2.effects := by
  have hnow : s.untitled.now = s.now := rfl
  constructor
  · refine untitled_eq_iff.mpr ⟨?_, ?_, ?_⟩
    · rw [perform_queue, perform_queue, entrants_untitled, hnow, List.map_append, List.map_append,
        List.map_filterMap, List.map_filterMap, untitled, List.filterMap_map]
      congr 1
      refine List.filterMap_congr fun t _ => ?_
      rw [Function.comp_apply, (t.undergo_untitled s.now operation).1, Option.map_map]
      rfl
    · rw [perform_lastId, perform_lastId, entrants_untitled]
      rfl
    · rw [perform_now, perform_now, hnow]
  · rw [effects_perform, effects_perform, hnow, untitled, List.flatMap_map]
    exact List.flatMap_congr fun t _ => (t.undergo_untitled s.now operation).2

end Scheduler

end Schedule

/-! ## Consoles -/

namespace Console

def untitled (c : Console P σ) : Console P σ := { c with scheduler := c.scheduler.untitled }

/-- What an action has led to, but for what is only about how a command was written. -/
def Entry.effects (e : Entry) : Entry := { e with trace := e.trace.effects }

theorem dispatch_untitled (r : Registry P σ) (service : Service) (line : String) (sessions : P)
    (configuration : Configuration) (s : Scheduler σ) :
    let x := r.dispatch service line sessions configuration s
    let y := r.dispatch service line sessions configuration s.untitled
    y.outcome = x.outcome ∧ y.sessions = x.sessions ∧ y.trace = x.trace ∧
      y.scheduler.untitled = x.scheduler.untitled := by
  unfold Registry.dispatch
  cases r.resolve (Text.words line) with
  | none => exact ⟨rfl, rfl, rfl, s.untitled_untitled⟩
  | some d =>
    simp only
    generalize d.handler (d.invocation service line) sessions configuration = reply
    rcases reply.outcome with cause | (lines | sequence)
    · exact ⟨rfl, rfl, rfl, s.untitled_untitled⟩
    · cases d.isAsync <;> exact ⟨rfl, rfl, rfl, s.untitled_untitled⟩
    · cases d.isAsync with
      | false => exact ⟨rfl, rfl, rfl, s.untitled_untitled⟩
      | true => exact ⟨rfl, rfl, rfl, Scheduler.untitled_schedule s.untitled_untitled service line line sequence⟩

theorem entry_congr (c : Console P σ) (dispatched : Option (Service × Except DispatchError Dispatched))
    {t u : Trace} (h : t.effects = u.effects) :
    Entry.effects { dispatched, trace := t, delivered := c.untitled.delivered t } =
      Entry.effects { dispatched, trace := u, delivered := c.delivered u } := by
  have hdelivered : c.untitled.delivered t = c.delivered u := by
    rw [delivered, delivered, ← t.written_effects, h, u.written_effects]
    rfl
  simp only [Entry.effects, h, hdelivered]

variable [OutputSequence σ] [Session.Provider P]

theorem perform_untitled (c : Console P σ) (action : Action P) :
    (c.untitled.perform action).1.effects = (c.perform action).1.effects ∧
      (c.untitled.perform action).2.untitled = (c.perform action).2.untitled := by
  have hscheduler : ∀ {s s' : Scheduler σ}, s.untitled = s'.untitled →
      untitled { c with scheduler := s } = untitled { c with scheduler := s' } :=
    congrArg fun s => ({ c with scheduler := s } : Console P σ)
  have hsame : c.scheduler.untitled.untitled = c.scheduler.untitled := c.scheduler.untitled_untitled
  cases action with
  | dispatch service line =>
    obtain ⟨houtcome, hsessions, htrace, hleft⟩ :=
      dispatch_untitled c.registry service line c.sessions c.configuration c.scheduler
    simp only [perform, dispatch, untitled, houtcome, hsessions, htrace, hleft]
    exact ⟨rfl, trivial⟩
  | tick =>
    obtain ⟨hleft, htrace⟩ :=
      c.scheduler.perform_untitled (.tick c.isConnected ⟨Session.Provider.view c.sessions, c.configuration⟩)
    exact ⟨c.entry_congr none htrace, hscheduler hleft⟩
  | cancel service =>
    obtain ⟨hleft, htrace⟩ := c.scheduler.perform_untitled (.cancel service)
    exact ⟨c.entry_congr none htrace, hscheduler hleft⟩
  | connect service | disconnect service =>
    refine ⟨rfl, ?_⟩
    simp only [perform, connect, disconnect, untitled, hsame]
  | wait milliseconds change =>
    refine ⟨rfl, ?_⟩
    have hleft := (c.scheduler.perform_untitled (.elapse milliseconds)).1
    exact congrArg (fun s => ({ c with scheduler := s, sessions := change c.sessions } : Console P σ)) hleft

/-- Two consoles that differ in the lines of their tasks go on alike. -/
theorem performAll_congr {c c' : Console P σ} (h : c.untitled = c'.untitled) (actions : List (Action P)) :
    (c.performAll actions).1.map Entry.effects = (c'.performAll actions).1.map Entry.effects := by
  induction actions generalizing c c' with
  | nil => rfl
  | cons action later ih =>
    obtain ⟨hentry, hnext⟩ := c.perform_untitled action
    obtain ⟨hentry', hnext'⟩ := c'.perform_untitled action
    rw [h] at hentry hnext
    have hlater := ih (hnext.symm.trans hnext')
    simp only [performAll, List.map_cons, hlater, ← hentry, hentry']

end Console

end RouteServer
