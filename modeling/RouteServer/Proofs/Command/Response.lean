import RouteServer.Command.Dispatch
import RouteServer.Proofs.Schedule.Output
import RouteServer.Proofs.Trace

/-! # Responses to commands

The response to a command line is what its handler answers, or what the output that it schedules gives up
to its end. Every response ends with its one marker, and no part of it that is not the whole has one.
-/

namespace RouteServer.Command

open Schedule

variable {P σ : Type}

def Outcome.isScheduled : Outcome σ → Bool
  | answered _ => false
  | scheduled _ => true

/-- A line that begins a scheduled output. -/
inductive Begins (registry : Registry P σ) (configuration : Configuration) (service : Service)
    (line : String) (sequence : σ) : Prop
  | intro (d : Descriptor P σ) (sessions : P) (hd : registry.resolve (Text.words line) = some d)
    (houtcome : (d.handler (d.invocation service line) sessions configuration).outcome =
      .ok (.scheduled sequence)) (hasync : d.isAsync = true)

variable [OutputSequence σ] (registry : Registry P σ) (configuration : Configuration)
  (service : Service) (line : String)

/-- The whole response to a line of a client. -/
inductive Responds : List Output → Prop
  | unknown (hd : registry.resolve (Text.words line) = none) : Responds [.marker .error]
  | failed (d : Descriptor P σ) (sessions : P) (cause : CommandError)
    (hd : registry.resolve (Text.words line) = some d)
    (houtcome : (d.handler (d.invocation service line) sessions configuration).outcome =
      .error cause) : Responds [.marker .error]
  | broken (d : Descriptor P σ) (sessions : P) (outcome : Outcome σ)
    (hd : registry.resolve (Text.words line) = some d)
    (houtcome : (d.handler (d.invocation service line) sessions configuration).outcome = .ok outcome)
    (hbroken : outcome.isScheduled ≠ d.isAsync) : Responds [.marker .error]
  | answered (d : Descriptor P σ) (sessions : P) (lines : List String)
    (hd : registry.resolve (Text.words line) = some d)
    (houtcome : (d.handler (d.invocation service line) sessions configuration).outcome =
      .ok (.answered lines)) (hasync : d.isAsync = false) :
    Responds (lines.map .line ++ [.marker .done])
  | scheduled (sequence : σ) (contexts : List StepContext)
    (hbegins : Begins registry configuration service line sequence)
    (hover : residue sequence contexts = none) :
    Responds ((replies sequence contexts).flatMap StepResult.output)

/-- What has been written of a scheduled response, and the output that is still to come. -/
inductive Underway : List Output → σ → Prop
  | intro (sequence rest : σ) (contexts : List StepContext)
    (hbegins : Begins registry configuration service line sequence)
    (hrest : residue sequence contexts = some rest) :
    Underway ((replies sequence contexts).flatMap StepResult.output) rest

variable {registry configuration service line}

/-! ## Markers -/

theorem Underway.markerless {output : List Output} {rest : σ}
    (h : Underway registry configuration service line output rest) :
    ∃ lines : List String, output = lines.map .line := by
  obtain ⟨sequence, _, contexts, -, hrest⟩ := h
  rcases replies_cases sequence contexts with ⟨-, -, hall⟩ | ⟨hnone, -⟩
  · exact ⟨_, flatMap_output hall⟩
  · rw [hrest] at hnone
    cases hnone

/-- A whole response is lines and one marker behind them. -/
theorem Responds.marked {output : List Output} (h : Responds registry configuration service line output) :
    ∃ (lines : List String) (answer : Answer), output = lines.map .line ++ [.marker answer] := by
  cases h with
  | unknown => exact ⟨[], .error, rfl⟩
  | failed => exact ⟨[], .error, rfl⟩
  | broken => exact ⟨[], .error, rfl⟩
  | answered d sessions lines => exact ⟨lines, .done, rfl⟩
  | scheduled sequence contexts hbegins hover =>
    rcases replies_cases sequence contexts with ⟨rest, hrest, -⟩ | ⟨-, shown, last, hreplies, hends, hall⟩
    · rw [hover] at hrest
      cases hrest
    · rw [hreplies, List.flatMap_append, flatMap_output hall]
      rcases StepResult.eq_of_ends hends with rfl | ⟨cause, rfl⟩
      · exact ⟨_, .done, rfl⟩
      · exact ⟨_, .error, rfl⟩

/-! ## Steps -/

theorem Underway.begin {sequence : σ} (h : Begins registry configuration service line sequence) :
    Underway registry configuration service line [] sequence :=
  .intro sequence sequence [] h rfl

theorem Underway.goes {output : List Output} {rest : σ} (context : StepContext)
    (h : Underway registry configuration service line output rest)
    (hgoes : StepResult.ends (OutputSequence.step context rest).1 = false) :
    Underway registry configuration service line
      (output ++ StepResult.output (OutputSequence.step context rest).1)
      (OutputSequence.step context rest).2 := by
  obtain ⟨sequence, _, contexts, hbegins, hrest⟩ := h
  have hnext := residue_concat context hrest
  rw [hgoes, if_neg Bool.false_ne_true] at hnext
  have := Underway.intro sequence _ (contexts ++ [context]) hbegins hnext
  rwa [replies_concat context hrest, List.flatMap_append, List.flatMap_singleton] at this

theorem Underway.ends {output : List Output} {rest : σ} (context : StepContext)
    (h : Underway registry configuration service line output rest)
    (hends : StepResult.ends (OutputSequence.step context rest).1 = true) :
    Responds registry configuration service line
      (output ++ StepResult.output (OutputSequence.step context rest).1) := by
  obtain ⟨sequence, _, contexts, hbegins, hrest⟩ := h
  have hover := residue_concat context hrest
  rw [hends, if_pos rfl] at hover
  have := Responds.scheduled sequence (contexts ++ [context]) hbegins hover
  rwa [replies_concat context hrest, List.flatMap_append, List.flatMap_singleton] at this

/-! ## Dispatching -/

theorem quiet_before (i : Invocation) (notes : List Log.Record) :
    Trace.Quiet ([Registry.dispatchNote i, .invoked i] ++ notes.map .note) := by
  simp [Trace.Quiet, Registry.dispatchNote]

/-- A line is answered at once by its whole response, or its output is scheduled; no other client gets
anything. -/
theorem dispatch_spec (registry : Registry P σ) (configuration : Configuration) (service : Service)
    (line : String) (sessions : P) (scheduler : Scheduler σ) :
    let result := registry.dispatch service line sessions configuration scheduler
    (∃ output, Responds registry configuration service line output ∧ result.scheduler = scheduler ∧
      ∀ other, result.trace.traffic other = if other = service then { written := output } else {}) ∨
    (∃ sequence, Begins registry configuration service line sequence ∧
      result.scheduler = (scheduler.schedule service line sequence).2.1 ∧
      ∀ other, result.trace.traffic other = {}) := by
  unfold Registry.dispatch
  cases hd : registry.resolve (Text.words line) with
  | none => exact .inl ⟨_, .unknown hd, rfl, Trace.traffic_wrote service none _⟩
  | some d =>
    have hbefore := fun notes => (quiet_before (d.invocation service line) notes).traffic
    cases houtcome : (d.handler (d.invocation service line) sessions configuration).outcome with
    | error cause =>
      refine .inl ⟨_, .failed d sessions cause hd houtcome, ?_, fun other => ?_⟩
      · simp only [houtcome]
      · simp only [houtcome, Trace.traffic_append, hbefore, Traffic.empty_append]
        exact Trace.traffic_wrote service none _ other
    | ok outcome =>
      cases outcome with
      | answered lines =>
        cases hasync : d.isAsync with
        | true =>
          refine .inl ⟨_, .broken d sessions _ hd houtcome (by simp [Outcome.isScheduled, hasync]), ?_,
            fun other => ?_⟩
          · simp only [houtcome, hasync]
          · simp only [houtcome, hasync, Trace.traffic_append, hbefore, Traffic.empty_append]
            exact Trace.traffic_wrote service none _ other
        | false =>
          refine .inl ⟨_, .answered d sessions lines hd houtcome hasync, ?_, fun other => ?_⟩
          · simp only [houtcome, hasync]
          · have hlines : lines.map (fun text => Event.wrote service none (.line text)) =
                (lines.map Output.line).map (.wrote service none) := by simp
            simp only [houtcome, hasync, Trace.traffic_append, hbefore, Traffic.empty_append, hlines,
              Trace.traffic_map_wrote, Trace.traffic_wrote]
            split <;> rfl
      | scheduled sequence =>
        cases hasync : d.isAsync with
        | true =>
          refine .inr ⟨sequence, .intro d sessions hd houtcome hasync, ?_, fun other => ?_⟩
          · simp only [houtcome, hasync]
          · simp only [houtcome, hasync, Trace.traffic_append, hbefore, Traffic.empty_append]
            rfl
        | false =>
          refine .inl ⟨_, .broken d sessions _ hd houtcome (by simp [Outcome.isScheduled, hasync]), ?_,
            fun other => ?_⟩
          · simp only [houtcome, hasync]
          · simp only [houtcome, hasync, Trace.traffic_append, hbefore, Traffic.empty_append]
            exact Trace.traffic_wrote service none _ other

end RouteServer.Command
