import RouteServer.Schedule.Task

/-! # What an output gives, step by step

`replies` lists the answers of an output to its steps, up to the one that ends it, and `residue` is what
is left of the output for later steps.
-/

namespace RouteServer.Schedule

/-! ## Answers to steps -/

/-- The answer of an output to a step. -/
abbrev StepResult := Except Command.CommandError Step

namespace StepResult

/-- The state in which an answer leaves the task, if it ends the output. -/
def closing : StepResult → Option TaskState
  | .ok .exhausted => some .completed
  | .error _ => some .failed
  | .ok (.line _) | .ok .idle => none

def ends (r : StepResult) : Bool := r.closing.isSome

/-- What is written for an answer. -/
def output : StepResult → List Output
  | .ok (.line text) => [.line text]
  | .ok .idle => []
  | .ok .exhausted => [.marker .done]
  | .error _ => [.marker .error]

/-- The line in an answer. -/
def line? : StepResult → Option String
  | .ok (.line text) => some text
  | _ => none

theorem closing_eq_none {r : StepResult} (h : r.ends = false) : r.closing = none := by
  simpa [ends] using h

theorem output_of_goes {r : StepResult} (h : r.ends = false) :
    r.output = (r.line?.map .line).toList := by
  match r with
  | .ok (.line text) | .ok .idle => rfl
  | .ok .exhausted | .error cause => cases h

theorem eq_of_ends {r : StepResult} (h : r.ends = true) :
    r = .ok .exhausted ∨ ∃ cause, r = .error cause := by
  match r with
  | .ok .exhausted => exact Or.inl rfl
  | .error cause => exact Or.inr ⟨cause, rfl⟩
  | .ok (.line text) | .ok .idle => cases h

end StepResult

/-- The lines that answers give. -/
def lines (results : List StepResult) : List String := results.filterMap StepResult.line?

theorem flatMap_output {results : List StepResult} (h : ∀ r ∈ results, StepResult.ends r = false) :
    results.flatMap StepResult.output = (lines results).map .line := by
  induction results with
  | nil => rfl
  | cons r rest ih =>
    rw [List.flatMap_cons, ih fun r hr => h r (List.mem_cons_of_mem _ hr),
      StepResult.output_of_goes (h r List.mem_cons_self), lines, lines]
    cases hl : r.line? with
    | none => rw [List.filterMap_cons_none hl]; rfl
    | some line => rw [List.filterMap_cons_some hl]; rfl

/-! ## Whole outputs -/

variable {σ : Type} [OutputSequence σ]

/-- The answers of an output to steps that see the given contexts, up to the one that ends it. -/
def replies (sequence : σ) : List StepContext → List StepResult
  | [] => []
  | context :: later =>
    let (result, next) := OutputSequence.step context sequence
    if StepResult.ends result then [result] else result :: replies next later

/-- What is left of an output after steps, unless it has ended. -/
def residue (sequence : σ) : List StepContext → Option σ
  | [] => some sequence
  | context :: later =>
    let (result, next) := OutputSequence.step context sequence
    if StepResult.ends result then none else residue next later

theorem replies_eq_nil_iff {sequence : σ} {contexts : List StepContext} :
    replies sequence contexts = [] ↔ contexts = [] := by
  cases contexts with
  | nil => simp [replies]
  | cons context later =>
    simp only [replies]
    split <;> simp

theorem replies_append (sequence : σ) (early late : List StepContext) :
    replies sequence (early ++ late) =
      replies sequence early ++ ((residue sequence early).map (replies · late)).getD [] := by
  induction early generalizing sequence with
  | nil => rfl
  | cons context later ih =>
    simp only [List.cons_append, replies, residue]
    split
    · simp
    · rw [ih, List.cons_append]

theorem residue_append (sequence : σ) (early late : List StepContext) :
    residue sequence (early ++ late) = (residue sequence early).bind (residue · late) := by
  induction early generalizing sequence with
  | nil => rfl
  | cons context later ih =>
    simp only [List.cons_append, residue]
    split
    · rfl
    · exact ih _

theorem replies_concat {sequence rest : σ} {contexts : List StepContext} (context : StepContext)
    (h : residue sequence contexts = some rest) :
    replies sequence (contexts ++ [context]) =
      replies sequence contexts ++ [(OutputSequence.step context rest).1] := by
  rw [replies_append, h]
  simp [replies]

theorem residue_concat {sequence rest : σ} {contexts : List StepContext} (context : StepContext)
    (h : residue sequence contexts = some rest) :
    residue sequence (contexts ++ [context]) =
      if StepResult.ends (OutputSequence.step context rest).1 then none
      else some (OutputSequence.step context rest).2 := by
  rw [residue_append, h]
  rfl

theorem replies_cases (sequence : σ) (contexts : List StepContext) :
    (∃ rest, residue sequence contexts = some rest ∧
      ∀ r ∈ replies sequence contexts, StepResult.ends r = false) ∨
    (residue sequence contexts = none ∧ ∃ shown last, replies sequence contexts = shown ++ [last] ∧
      StepResult.ends last = true ∧ ∀ r ∈ shown, StepResult.ends r = false) := by
  induction contexts generalizing sequence with
  | nil => exact Or.inl ⟨sequence, rfl, by simp [replies]⟩
  | cons context later ih =>
    simp only [replies, residue]
    split
    · rename_i hends
      exact Or.inr ⟨rfl, [], _, rfl, hends, by simp⟩
    · rename_i hends
      have hgoes := Bool.eq_false_iff.mpr hends
      rcases ih (OutputSequence.step context sequence).2 with
        ⟨rest, hrest, hall⟩ | ⟨hnone, shown, last, hreplies, hlast, hall⟩
      · refine Or.inl ⟨rest, hrest, ?_⟩
        rintro r (_ | ⟨_, hr⟩)
        · exact hgoes
        · exact hall r hr
      · refine Or.inr ⟨hnone, _ :: shown, last, by rw [hreplies]; rfl, hlast, ?_⟩
        rintro r (_ | ⟨_, hr⟩)
        · exact hgoes
        · exact hall r hr

end RouteServer.Schedule
