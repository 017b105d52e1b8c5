import RouteServer.Command.Standard
import RouteServer.Proofs.Command.Resolution
import RouteServer.Proofs.Config.Printed
import RouteServer.Proofs.Console.Run
import RouteServer.Proofs.Except
import RouteServer.Proofs.Session.Names

/-! # The lines of responses are payload

A command of the standard registry answers or schedules nothing but payload, and leaves no other names in the
table. A listing keeps lines of one step for the next: all of them are payload too, so each step of a listing
gives payload and leaves a listing that does.
-/

namespace RouteServer

open Session

/-! ## The block of a neighbor -/

theorem Neighbor.mark_of_mem_blockLines {n : Neighbor} :
    ∀ line ∈ n.blockLines, ' ' ∈ line.toList ∨ '\x7d' ∈ line.toList := by
  have hstatement : ∀ keyword value, ' ' ∈ (statement keyword value).toList := by simp [statement]
  have hslot {α : Type} (slot : Option α) (keyword : String) (value : α → String) :
      ∀ line ∈ (slot.map fun a => statement keyword (value a)).toList,
        ' ' ∈ line.toList ∨ '\x7d' ∈ line.toList := by
    cases slot <;> simp [hstatement]
  have hfamilies : ∀ line ∈ familyLines n.families, ' ' ∈ line.toList ∨ '\x7d' ∈ line.toList := by
    unfold familyLines
    split
    · simp
    · simp only [List.forall_mem_append, List.forall_mem_cons, List.forall_mem_map]
      simp
  simp only [blockLines, List.forall_mem_append]
  exact ⟨⟨⟨⟨⟨⟨by simp, hslot _ _ _⟩, hslot _ _ _⟩, hslot _ _ _⟩, by simp [hstatement]⟩, hfamilies⟩, by simp⟩

theorem Neighbor.payload_blockLines {n : Neighbor} (hn : n.IsDeclared) :
    ∀ line ∈ n.blockLines, Payload line := by
  intro line hline
  have hunbroken := ((Config.lined_neighbor hn).isLine line hline).unbroken
  rcases mark_of_mem_blockLines line hline with hmem | hmem
  · exact .of_mem hunbroken hmem rfl
  · exact .of_mem hunbroken hmem rfl

namespace Command

/-! ## Steps of a listing -/

/-- What a step sees: snapshots without line feeds in their names, and a configuration that a text declares. -/
structure Seen (context : Schedule.StepContext) : Prop where
  snapshots : ∀ key s, context.sessions.snapshot key = some s → s.NamesUnbroken
  neighbors : ∀ n ∈ context.configuration.neighbors, n.IsDeclared

/-- An answer to a step that is payload if it is a line. -/
def Pays (r : Schedule.StepResult) : Prop := ∀ o ∈ r.output, o.Legible

theorem pays_line {line : String} (h : Payload line) : Pays (.ok (.line line)) := by
  rintro o ho
  obtain rfl := List.mem_singleton.mp ho
  exact h

theorem pays_idle : Pays (.ok .idle) := by
  rintro o (_ | _)

theorem pays_exhausted : Pays (.ok .exhausted) := by
  rintro o ho
  obtain rfl := List.mem_singleton.mp ho
  trivial

theorem pays_first {lines : List String} (h : ∀ line ∈ lines, Payload line) {first : String}
    {rest : List String} (hlines : lines = first :: rest) :
    Pays (.ok (.line first)) ∧ ∀ line ∈ rest, Payload line := by
  subst hlines
  obtain ⟨hfirst, hrest⟩ := List.forall_mem_cons.mp h
  exact ⟨pays_line hfirst, hrest⟩

/-- The lines that wait in a listing are payload. -/
def Listing.Legible : Listing → Prop
  | .prepared steps => ∀ step ∈ steps, ∀ context, Pays (step context)
  | .peers l => ∀ line ∈ l.waiting, Payload line
  | .configuration l => ∀ line ∈ l.waiting, Payload line
  | .json _ => True

theorem PeerListing.showPeer_pays {l : PeerListing} (hl : ∀ line ∈ l.waiting, Payload line) {sessions : View}
    (hsessions : ∀ key s, sessions.snapshot key = some s → s.NamesUnbroken) (key : Key) (rest : List Key) :
    Pays (.ok (l.showPeer sessions key rest).1) ∧
      ∀ line ∈ (l.showPeer sessions key rest).2.waiting, Payload line := by
  unfold showPeer
  dsimp only
  split
  · exact ⟨pays_idle, hl⟩
  · split
    · exact ⟨pays_idle, hl⟩
    · rename_i s hs
      split
      · exact ⟨pays_line (Report.payload_summaryRow s), hl⟩
      · have hblock := Report.payload_extensive (hsessions key s hs)
        split
        · exact ⟨pays_idle, hl⟩
        · exact pays_first hblock ‹_›

theorem PeerListing.step_pays {l : PeerListing} (hl : ∀ line ∈ l.waiting, Payload line) {sessions : View}
    (hsessions : ∀ key s, sessions.snapshot key = some s → s.NamesUnbroken) :
    Pays (.ok (l.step sessions).1) ∧ ∀ line ∈ (l.step sessions).2.waiting, Payload line := by
  unfold step
  split
  · exact pays_first hl ‹_›
  · split
    · dsimp only
      split
      · exact ⟨pays_line Report.payload_summaryHeader, hl⟩
      · exact ⟨pays_idle, hl⟩
    · exact ⟨pays_exhausted, hl⟩
    · exact showPeer_pays hl hsessions ..

theorem ConfigurationListing.step_pays {l : ConfigurationListing} (hl : ∀ line ∈ l.waiting, Payload line)
    {c : Configuration} (hc : ∀ n ∈ c.neighbors, n.IsDeclared) :
    Pays (.ok (l.step c).1) ∧ ∀ line ∈ (l.step c).2.waiting, Payload line := by
  unfold step
  split
  · exact pays_first hl ‹_›
  · split
    · exact ⟨pays_exhausted, hl⟩
    · rename_i n hn
      have hdeclared := hc n (List.mem_of_getElem? hn)
      have hblock := Neighbor.payload_blockLines hdeclared
      rw [← Neighbor.lines_render hdeclared] at hblock
      dsimp only
      split
      · exact ⟨pays_idle, hl⟩
      · split
        · exact ⟨pays_idle, hl⟩
        · exact pays_first hblock ‹_›

theorem Listing.step_pays {l : Listing} (hl : l.Legible) {context : Schedule.StepContext} (hcontext : Seen context) :
    Pays (l.step context).1 ∧ (l.step context).2.Legible := by
  cases l with
  | prepared steps =>
    cases steps with
    | nil => exact ⟨pays_exhausted, hl⟩
    | cons first rest =>
      obtain ⟨hfirst, hrest⟩ := List.forall_mem_cons.mp hl
      exact ⟨hfirst context, hrest⟩
  | peers l => exact l.step_pays hl hcontext.snapshots
  | configuration l => exact l.step_pays hl hcontext.neighbors
  | json written =>
    cases written with
    | true => exact ⟨pays_exhausted, trivial⟩
    | false => exact ⟨pays_line (Report.payload_json _), trivial⟩

/-! ## Handlers -/

def Outcome.Legible : Outcome Listing → Prop
  | .answered lines => ∀ line ∈ lines, Payload line
  | .scheduled l => l.Legible

/-- A command that answers or schedules payload, and brings no other names into the table. -/
def Descriptor.Pays (d : Descriptor Table Listing) : Prop :=
  ∀ invocation t configuration, t.NamesUnbroken →
    let reply := d.handler invocation t configuration
    reply.sessions.NamesUnbroken ∧ ∀ outcome, reply.outcome = .ok outcome → outcome.Legible

theorem Teardown.descriptor_pays : Descriptor.Pays Teardown.descriptor := by
  intro invocation t configuration ht
  simp only [Teardown.descriptor, Teardown.handler]
  split
  · refine ⟨ht, fun outcome h => ?_⟩
    cases h
  · rename_i request hrequest
    refine ⟨ht.run request, fun outcome h => ?_⟩
    obtain rfl := Except.ok.inj h
    rintro line (_ | _)

theorem ShowNeighbor.payload_usage : ∀ line ∈ usage, Payload line := by decide

theorem ShowNeighbor.listing_legible (mode filter : Option String) : (listing mode filter).Legible := by
  have hnone : ∀ line ∈ ([] : List String), Payload line := by simp
  unfold listing
  split
  · trivial
  · exact hnone
  · exact hnone
  · exact hnone
  · exact List.forall_mem_map.mpr fun line hline _ => pays_line (payload_usage line hline)

theorem ShowNeighbor.descriptor_pays : Descriptor.Pays ShowNeighbor.descriptor := by
  refine fun invocation t configuration ht => ⟨ht, fun outcome h => ?_⟩
  obtain rfl := Except.ok.inj h
  exact listing_legible _ _

/-! ## The standard registry -/

theorem Registry.standard_commands {P : Type} [Provider P] {registry : Registry P Listing}
    (h : Registry.standard = .ok registry) :
    registry.commands = [Teardown.descriptor, ShowNeighbor.descriptor] := by
  obtain ⟨first, hfirst, hsecond⟩ := bind_eq_ok_iff.mp h
  rw [register_eq_ok hsecond, register_eq_ok hfirst, List.nil_append, List.singleton_append]

theorem Registry.standard_pays {registry : Registry Table Listing} (h : Registry.standard = .ok registry) :
    ∀ d ∈ registry.commands, d.Pays := by
  simp only [standard_commands h, List.forall_mem_cons, List.not_mem_nil, false_implies, implies_true,
    and_true]
  exact ⟨Teardown.descriptor_pays, ShowNeighbor.descriptor_pays⟩

/-! ## Dispatching -/

theorem dispatch_sessions {P σ : Type} (registry : Registry P σ) (service : Service) (line : String)
    (sessions : P) (configuration : Configuration) (scheduler : Schedule.Scheduler σ) :
    let r := registry.dispatch service line sessions configuration scheduler
    r.sessions = sessions ∨ ∃ d, registry.resolve (Text.words line) = some d ∧
      r.sessions = (d.handler (d.invocation service line) sessions configuration).sessions := by
  unfold Registry.dispatch
  split
  · exact .inl rfl
  · rename_i d hd
    refine .inr ⟨d, hd, ?_⟩
    dsimp only
    split <;> rfl

variable {registry : Registry Table Listing} (hregistry : ∀ d ∈ registry.commands, d.Pays) {t : Table}
  (ht : t.NamesUnbroken)
include hregistry ht

theorem Exit.pays {service : Service} {line : String} {configuration : Configuration}
    {scheduler : Schedule.Scheduler Listing} {result : Except DispatchError Dispatched}
    {outputs : List Output} {queued : List (Schedule.Task Listing)}
    (h : Exit registry service line t configuration scheduler result outputs queued) :
    (∀ o ∈ outputs, o.Legible) ∧ ∀ task ∈ queued, task.sequence.Legible := by
  have hmarker (answer : Answer) : ∀ o ∈ [Output.marker answer], o.Legible := by
    simp [Output.Legible]
  have hnone : ∀ task ∈ ([] : List (Schedule.Task Listing)), task.sequence.Legible := by simp
  cases h with
  | answered d lines hd houtcome =>
    obtain ⟨-, hlegible⟩ := hregistry d (Registry.mem_of_resolve hd) _ t configuration ht
    refine ⟨List.forall_mem_append.mpr ⟨?_, hmarker .done⟩, hnone⟩
    exact List.forall_mem_map.mpr (hlegible _ houtcome)
  | scheduled d sequence hd houtcome =>
    obtain ⟨-, hlegible⟩ := hregistry d (Registry.mem_of_resolve hd) _ t configuration ht
    refine ⟨by simp, fun task htask => ?_⟩
    obtain rfl := List.mem_singleton.mp htask
    exact hlegible _ houtcome
  | _ => exact ⟨hmarker .error, hnone⟩

theorem dispatch_names (service : Service) (line : String) (configuration : Configuration)
    (scheduler : Schedule.Scheduler Listing) :
    (registry.dispatch service line t configuration scheduler).sessions.NamesUnbroken := by
  rcases dispatch_sessions registry service line t configuration scheduler with h | ⟨d, hd, h⟩
  · rw [h]
    exact ht
  · rw [h]
    exact (hregistry d (Registry.mem_of_resolve hd) _ t configuration ht).1

end Command

end RouteServer
