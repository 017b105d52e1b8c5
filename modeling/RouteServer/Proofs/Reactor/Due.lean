import RouteServer.Proofs.Reactor.Settled

/-! # Commands that are due

When commands are dispatched, the oldest command of each client without a task is due. The clients that are looked
at are found before the first command is dispatched, and each command may change the sessions and the tasks, but what
is due for a client changes only when the client has its own turn. So the commands that are due at the beginning are
carried out, one after the other.
-/

namespace RouteServer

open Channel Command Schedule

variable {P σ : Type}

namespace Reactor

variable {r : Reactor P σ} {service : Service} {line : String}

/-! ## Commands that are due -/

/-- The command of a client that is to be dispatched next, if the client has no task. -/
def oldest? (r : Reactor P σ) (service : Service) : Option String :=
  if r.scheduler.isBusy service then none else (r.clients.lines? service).bind List.head?

/-- The oldest command of each client without a task. -/
def due (r : Reactor P σ) : List (Service × String) :=
  r.clients.entries.keys.filterMap fun service => (r.oldest? service).map (service, ·)

theorem mem_due : (service, line) ∈ r.due ↔ r.oldest? service = some line := by
  simp only [due, List.mem_filterMap, Option.map_eq_some_iff, Prod.mk.injEq]
  constructor
  · rintro ⟨_, -, _, h, rfl, rfl⟩
    exact h
  · intro h
    refine ⟨service, ?_, line, h, rfl, rfl⟩
    rw [oldest?, Option.ite_none_left_eq_some, Option.bind_eq_some_iff] at h
    obtain ⟨-, lines, hlines, -⟩ := h
    obtain ⟨c, hc, -⟩ := Option.map_eq_some_iff.mp hlines
    exact Keyed.mem_keys_iff.mpr ⟨c, hc⟩

theorem due_services_nodup (r : Reactor P σ) : (r.due.map (·.1)).Nodup := by
  have hservices : r.due.map (·.1) = r.clients.entries.keys.filter fun service => (r.oldest? service).isSome := by
    rw [due, List.map_filterMap, ← List.filterMap_eq_filter]
    congr 1
    funext service
    cases h : r.oldest? service <;> simp [h, Option.guard]
  rw [hservices]
  exact r.clients.entries.keys_nodup.filter _

theorem due_eq (h : r.Connected) :
    r.due = r.clients.withPendingLines.filterMap fun service => (r.oldest? service).map (service, ·) := by
  rw [due, Clients.withPendingLines, Clients.those, Keyed.keys, List.filterMap_map, List.filterMap_map,
    List.filterMap_filter]
  refine List.filterMap_congr fun entry hentry => ?_
  have hc : r.clients.client? entry.1 = some entry.2 := Keyed.get?_eq_some_iff.mpr hentry
  have hopen := h entry.1 entry.2 hc
  cases hlines : entry.2.lines with
  | nil => simp [oldest?, Clients.lines?, hc, hlines]
  | cons line rest => simp [hopen, hlines]

/-! ## One command -/

theorem dispatchFor_of_none (h : r.oldest? service = none) : r.dispatchFor service = { reactor := r } := by
  unfold dispatchFor
  split
  · rfl
  · rename_i hbusy
    split
    · rfl
    · rename_i line clients hline
      obtain ⟨c, rest, hc, -, hlines, -⟩ := Clients.nextLine_eq_some _ _ hline
      simp [oldest?, hbusy, Clients.lines?, hc, hlines] at h

/-- What is due is dispatched, and the other commands wait. -/
structure Takes (r : Reactor P σ) (service : Service) (line : String) (t : Turn P σ) : Prop where
  registry : t.reactor.registry = r.registry
  configuration : t.reactor.configuration = r.configuration
  sessions : t.reactor.sessions =
    (r.registry.dispatch service line r.sessions r.configuration r.scheduler).sessions
  scheduler : t.reactor.scheduler =
    (r.registry.dispatch service line r.sessions r.configuration r.scheduler).scheduler
  trace : t.trace = (r.registry.dispatch service line r.sessions r.configuration r.scheduler).trace ++
    [dispatchedNote service (r.registry.dispatch service line r.sessions r.configuration r.scheduler).outcome]
  lines : ∀ other, t.reactor.clients.lines? other =
    if other = service then (r.clients.lines? other).map List.tail else r.clients.lines? other

theorem dispatchFor_of_some (hconnected : r.Connected) (h : r.oldest? service = some line) :
    Takes r service line (r.dispatchFor service) := by
  rw [oldest?, Option.ite_none_left_eq_some, Option.bind_eq_some_iff] at h
  obtain ⟨hidle, lines, hwaiting, hhead⟩ := h
  obtain ⟨c, hc, rfl⟩ := Option.map_eq_some_iff.mp hwaiting
  obtain ⟨rest, hlines⟩ := List.head?_eq_some_iff.mp hhead
  have hget : r.clients.entries.get? service = some c := hc
  have hnext : r.clients.nextLine service = (some line,
      { r.clients with entries := r.clients.entries.modify service fun c => { c with lines := rest } }) := by
    simp [Clients.nextLine, hget, hconnected service c hc, hlines]
  unfold dispatchFor
  rw [if_neg hidle, hnext]
  refine ⟨rfl, rfl, rfl, rfl, rfl, fun other => ?_⟩
  simp only [Clients.lines?_deliver]
  simp only [Clients.lines?, Clients.client?, Keyed.get?_modify]
  by_cases hother : other = service
  · simp [hother, hget, hlines]
  · simp [hother]

variable [OutputSequence σ]

theorem dispatch_queue (registry : Registry P σ) (configuration : Configuration) (service : Service)
    (line : String) (sessions : P) (scheduler : Scheduler σ) :
    ∃ scheduled, (registry.dispatch service line sessions configuration scheduler).scheduler.queue =
      scheduler.queue ++ scheduled ∧ ∀ t ∈ scheduled, t.service = service := by
  rcases dispatch_spec registry configuration service line sessions scheduler with
    ⟨output, -, hscheduler, -⟩ | ⟨sequence, -, hscheduler, -⟩
  · exact ⟨[], by simp [hscheduler], by simp⟩
  · rw [hscheduler]
    exact ⟨_, rfl, by simp⟩

theorem Takes.oldest?_of_ne {t : Turn P σ} (h : Takes r service line t) {other : Service}
    (hne : other ≠ service) : t.reactor.oldest? other = r.oldest? other := by
  obtain ⟨scheduled, hqueue, hown⟩ :=
    dispatch_queue r.registry r.configuration service line r.sessions r.scheduler
  have hnone : ∀ task ∈ scheduled, task.service ≠ other := fun task htask heq =>
    hne (heq.symm.trans (hown task htask))
  have hbusy : t.reactor.scheduler.isBusy other = r.scheduler.isBusy other := by
    rw [h.scheduler, Scheduler.isBusy, hqueue, List.any_append]
    simpa [Scheduler.isBusy] using fun task htask heq => absurd heq (hnone task htask)
  rw [oldest?, oldest?, hbusy, h.lines, if_neg hne]

/-! ## One command after the other -/

/-- What becomes of the sessions and the tasks by some commands, and what happens. -/
structure Carried (P σ : Type) where
  sessions : P
  scheduler : Scheduler σ
  trace : Trace

def carryOut (registry : Registry P σ) (configuration : Configuration) :
    List (Service × String) → P → Scheduler σ → Carried P σ
  | [], sessions, scheduler => ⟨sessions, scheduler, []⟩
  | (service, line) :: rest, sessions, scheduler =>
    let result := registry.dispatch service line sessions configuration scheduler
    let later := carryOut registry configuration rest result.sessions result.scheduler
    { later with trace := result.trace ++ [dispatchedNote service result.outcome] ++ later.trace }

theorem carryOut_queue (registry : Registry P σ) (configuration : Configuration)
    (commands : List (Service × String)) (sessions : P) (scheduler : Scheduler σ) :
    ∃ scheduled, (carryOut registry configuration commands sessions scheduler).scheduler.queue =
      scheduler.queue ++ scheduled ∧ ∀ t ∈ scheduled, ∃ line, (t.service, line) ∈ commands := by
  induction commands generalizing sessions scheduler with
  | nil => exact ⟨[], by simp [carryOut], by simp⟩
  | cons command rest ih =>
    obtain ⟨service, line⟩ := command
    obtain ⟨first, hfirst, hown⟩ := dispatch_queue registry configuration service line sessions scheduler
    let result := registry.dispatch service line sessions configuration scheduler
    obtain ⟨later, hlater, hothers⟩ := ih result.sessions result.scheduler
    refine ⟨first ++ later, ?_, fun t ht => ?_⟩
    · rw [← List.append_assoc, ← hfirst]
      exact hlater
    · rcases List.mem_append.mp ht with ht | ht
      · exact ⟨line, by simp [hown t ht]⟩
      · obtain ⟨other, hmem⟩ := hothers t ht
        exact ⟨other, List.mem_cons_of_mem _ hmem⟩

/-- The commands that are due at the beginning are dispatched, although the tasks and the sessions change on the
way: what is due for a client changes only when the client has its own turn. -/
theorem dispatchAll_carries (hconnected : r.Connected) {services : List Service} (hdistinct : services.Nodup) :
    let t := r.dispatchAll services
    carryOut r.registry r.configuration
        (services.filterMap fun service => (r.oldest? service).map (service, ·)) r.sessions r.scheduler =
      ⟨t.reactor.sessions, t.reactor.scheduler, t.trace⟩ ∧
    ∀ other, t.reactor.clients.lines? other = if other ∈ services ∧ (r.oldest? other).isSome = true then
      (r.clients.lines? other).map List.tail else r.clients.lines? other := by
  induction services generalizing r with
  | nil => simp [dispatchAll, carryOut]
  | cons service rest ih =>
    obtain ⟨hnew, hrest⟩ := List.nodup_cons.mp hdistinct
    rw [dispatchAll, List.filterMap_cons]
    cases hdue : r.oldest? service with
    | none =>
      obtain ⟨hcarried, hlines⟩ := ih hconnected hrest
      rw [dispatchFor_of_none hdue]
      refine ⟨by simpa using hcarried, fun other => ?_⟩
      rw [hlines]
      by_cases hother : other = service <;> simp [hother, hdue]
    | some line =>
      have hfirst := dispatchFor_of_some hconnected hdue
      obtain ⟨hcarried, hlines⟩ := ih (hconnected.dispatchFor service) hrest
      -- What is due for the others is the same after the first command, so `ih` speaks of the same commands.
      have hothers : ∀ other ∈ rest, (r.dispatchFor service).reactor.oldest? other = r.oldest? other :=
        fun other hmem => hfirst.oldest?_of_ne fun heq => hnew (heq ▸ hmem)
      constructor
      · rw [List.filterMap_congr fun other hmem => by rw [hothers other hmem], hfirst.registry,
          hfirst.configuration, hfirst.sessions, hfirst.scheduler] at hcarried
        simp only [Option.map_some, carryOut, hcarried, hfirst.trace]
      · intro other
        rw [hlines, hfirst.lines]
        by_cases hother : other = service
        · simp [hother, hnew, hdue]
        · by_cases hmem : other ∈ rest
          · simp [hother, hmem, hothers other hmem]
          · simp [hother, hmem]

theorem dispatchAll_due (hconnected : r.Connected) :
    let t := r.dispatchAll r.clients.withPendingLines
    carryOut r.registry r.configuration r.due r.sessions r.scheduler =
      ⟨t.reactor.sessions, t.reactor.scheduler, t.trace⟩ ∧
    ∀ other, t.reactor.clients.lines? other = if (r.oldest? other).isSome = true then
      (r.clients.lines? other).map List.tail else r.clients.lines? other := by
  have hdistinct : r.clients.withPendingLines.Nodup :=
    r.clients.entries.keys_nodup.sublist (List.filter_sublist.map _)
  obtain ⟨hcarried, hlines⟩ := dispatchAll_carries hconnected hdistinct
  rw [← due_eq hconnected] at hcarried
  refine ⟨hcarried, fun other => ?_⟩
  have hmem : (r.oldest? other).isSome = true → other ∈ r.clients.withPendingLines := by
    intro h
    obtain ⟨line, hline⟩ := Option.isSome_iff_exists.mp h
    have hdue := mem_due.mpr hline
    rw [due_eq hconnected, List.mem_filterMap] at hdue
    obtain ⟨service, hservice, heq⟩ := hdue
    obtain ⟨_, -, hpair⟩ := Option.map_eq_some_iff.mp heq
    obtain rfl : service = other := congrArg Prod.fst hpair
    exact hservice
  rw [hlines]
  simp only [and_iff_right_of_imp hmem]

end Reactor

end RouteServer
