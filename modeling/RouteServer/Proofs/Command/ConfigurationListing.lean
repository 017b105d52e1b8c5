import RouteServer.Command.Standard
import RouteServer.Proofs.Config.Printed
import RouteServer.Proofs.Schedule.Output

/-! # The listing of the configuration is read back

The listing gives the lines of the neighbors that its filter picks, block by block, and then ends. Its lines are
a configuration again, the one of these neighbors.
-/

namespace RouteServer.Command

open Schedule

/-- Whether a filter picks a neighbor: by any part of its name. Without a filter all are picked. -/
def picks (filter : Option String) (n : Neighbor) : Bool := filter.all fun f => Text.contains n.name f

namespace ConfigurationListing

/-- The steps of the listing at a neighbor. -/
def stepsAt (filter : Option String) (n : Neighbor) : List Step :=
  if picks filter n then n.blockLines.map .line else [.idle]

/-- The steps before the end of a listing. -/
def remaining (l : ConfigurationListing) (c : Configuration) : List Step :=
  l.waiting.map .line ++ (c.neighbors.drop l.next).flatMap (stepsAt l.filter)

variable {l : ConfigurationListing} {c : Configuration}

theorem remaining_ne_exhausted : ∀ s ∈ l.remaining c, s ≠ .exhausted := by
  rintro s hs rfl
  rcases List.mem_append.mp hs with hs | hs
  · obtain ⟨line, -, heq⟩ := List.mem_map.mp hs
    cases heq
  · obtain ⟨n, -, hs⟩ := List.mem_flatMap.mp hs
    unfold stepsAt at hs
    split at hs
    · obtain ⟨line, -, heq⟩ := List.mem_map.mp hs
      cases heq
    · cases List.mem_singleton.mp hs

theorem blockLines_ne_nil (n : Neighbor) : n.blockLines ≠ [] := by
  simp [Neighbor.blockLines]

theorem any_not_eq (filter : Option String) (n : Neighbor) :
    (filter.any fun f => !Text.contains n.name f) = !picks filter n := by
  cases filter <;> simp [picks]

theorem step_of_remaining (hc : ∀ n ∈ c.neighbors, n.IsDeclared) {s : Step} {more : List Step}
    (h : l.remaining c = s :: more) : ∃ l', l.step c = (s, l') ∧ l'.remaining c = more := by
  obtain ⟨filter, next, waiting⟩ := l
  cases waiting with
  | cons line rest =>
    obtain ⟨rfl, rfl⟩ := List.cons.inj h
    exact ⟨_, rfl, rfl⟩
  | nil =>
    cases hget : c.neighbors[next]? with
    | none =>
      simp [remaining, List.drop_eq_nil_of_le (List.getElem?_eq_none_iff.mp hget)] at h
    | some n =>
      obtain ⟨hlt, hn⟩ := List.getElem?_eq_some_iff.mp hget
      simp only [remaining, List.map_nil, List.nil_append, List.drop_eq_getElem_cons hlt, hn,
        List.flatMap_cons, stepsAt] at h
      -- The lines of the text of a block are those that it has been put together from.
      have hlines := Neighbor.lines_render (hc n (hn ▸ List.getElem_mem hlt))
      simp only [step, hget, any_not_eq, hlines]
      split at h
      · rename_i hpicks
        obtain ⟨first, later, hblock⟩ := List.exists_cons_of_ne_nil (blockLines_ne_nil n)
        rw [hblock] at h
        obtain ⟨rfl, rfl⟩ := List.cons.inj h
        simp [hpicks, hblock, remaining]
      · rename_i hpicks
        obtain ⟨rfl, rfl⟩ := List.cons.inj h
        simp [hpicks, remaining]

theorem step_of_remaining_nil (h : l.remaining c = []) : l.step c = (.exhausted, l) := by
  obtain ⟨filter, next, waiting⟩ := l
  obtain ⟨hwaiting, hdrop⟩ := List.append_eq_nil_iff.mp h
  obtain rfl := List.map_eq_nil_iff.mp hwaiting
  cases hget : c.neighbors[next]? with
  | none => simp only [step, hget]
  | some n =>
    obtain ⟨hlt, hn⟩ := List.getElem?_eq_some_iff.mp hget
    have hsteps : stepsAt filter n = [] := by
      simp only [List.drop_eq_getElem_cons hlt, hn, List.flatMap_cons] at hdrop
      exact (List.append_eq_nil_iff.mp hdrop).1
    unfold stepsAt at hsteps
    split at hsteps
    · exact absurd (List.map_eq_nil_iff.mp hsteps) (blockLines_ne_nil n)
    · cases hsteps

/-- The answers are the steps that remain and then the end, whatever the sessions are meanwhile. -/
theorem replies_eq (hc : ∀ n ∈ c.neighbors, n.IsDeclared) {contexts : List StepContext}
    (hcontexts : ∀ context ∈ contexts, context.configuration = c) :
    replies (Listing.configuration l) contexts =
      ((l.remaining c ++ [Step.exhausted]).map Except.ok).take contexts.length := by
  induction contexts generalizing l with
  | nil => rfl
  | cons context later ih =>
    obtain ⟨hcontext, hlater⟩ := List.forall_mem_cons.mp hcontexts
    cases hremaining : l.remaining c with
    | nil =>
      have hstep : OutputSequence.step context (Listing.configuration l) =
          (.ok .exhausted, .configuration l) := by
        simp only [OutputSequence.step, Listing.step, hcontext, step_of_remaining_nil hremaining]
      simp [replies, hstep, StepResult.ends, StepResult.closing]
    | cons s more =>
      obtain ⟨l', hl', rfl⟩ := step_of_remaining hc hremaining
      have hstep : OutputSequence.step context (Listing.configuration l) = (.ok s, .configuration l') := by
        simp only [OutputSequence.step, Listing.step, hcontext, hl']
      have hgoes : StepResult.ends (.ok s) = false := by
        have hs := remaining_ne_exhausted s (hremaining ▸ List.mem_cons_self)
        cases s with
        | exhausted => exact absurd rfl hs
        | _ => rfl
      simp only [replies, hstep, hgoes, Bool.false_eq_true, if_false, ih hlater]
      rfl

theorem lines_steps (filter : Option String) (ns : List Neighbor) :
    lines ((ns.flatMap (stepsAt filter)).map .ok) = (ns.filter (picks filter)).flatMap Neighbor.blockLines := by
  induction ns with
  | nil => rfl
  | cons n rest ih =>
    have hblock : lines ((n.blockLines.map Step.line).map .ok) = n.blockLines := by
      simp [lines, List.filterMap_map, Function.comp_def, StepResult.line?]
    rw [List.flatMap_cons, List.map_append, lines, List.filterMap_append, ← lines, ← lines, ih,
      List.filter_cons, stepsAt]
    split
    · rw [hblock, List.flatMap_cons]
    · rfl

end ConfigurationListing

/-- The listing of a configuration gives the blocks of the neighbors that its filter picks, and then ends. Its
lines are read again as the configuration of just these neighbors. -/
theorem configuration_listing_read_again {text : String} {c : Configuration}
    (h : Configuration.parse text = .ok c) (filter : Option String) :
    let picked := c.neighbors.filter fun n => filter.all fun f => Text.contains n.name f
    ∃ steps : List Step, .exhausted ∉ steps ∧
      (∀ contexts : List StepContext, (∀ context ∈ contexts, context.configuration = c) →
        replies (ShowNeighbor.listing (some "configuration") filter) contexts =
          ((steps ++ [Step.exhausted]).map Except.ok).take contexts.length) ∧
      lines (steps.map .ok) = picked.flatMap Neighbor.blockLines ∧
      Configuration.parse ("\n".intercalate (lines (steps.map .ok))) = .ok (.ofNeighbors picked) := by
  intro picked
  have hc := Configuration.isDeclared_of_parse h
  have hlines := ConfigurationListing.lines_steps filter c.neighbors
  refine ⟨c.neighbors.flatMap (ConfigurationListing.stepsAt filter), ?_, ?_, hlines, ?_⟩
  · intro hmem
    exact ConfigurationListing.remaining_ne_exhausted (l := { filter }) _ hmem rfl
  · intro contexts hcontexts
    exact ConfigurationListing.replies_eq hc.neighbors hcontexts
  · rw [hlines]
    exact Configuration.parse_blockLines (fun n hn => hc.neighbors n (List.mem_filter.mp hn).1)
      (hc.addresses.filter _)

theorem listing_of_one_neighbor :
    let text := "family all \x7b all \x7d neighbor 10.0.0.1 \x7b local-as 1 peer-as 2 family all \x7d" ++
      "neighbor 2001:DB8::0:1 \x7b description \"a # b; \x7b\" peer-as 2; local-as 01;" ++
      "family \x7b ipv6 unicast ipv4 [FLOW unicast] \x7d \x7d"
    let n : Neighbor :=
      { peerAddress := .v6 ⟨#v[0x2001, 0xDB8, 0, 0, 0, 0, 0, 1]⟩, description := some "a # b; \x7b",
        localAs := 1, peerAs := 2, holdTime := 180,
        families := .ofList [⟨.ipv4, .flow⟩, ⟨.ipv4, .unicast⟩, ⟨.ipv6, .unicast⟩] }
    let families := Families.ofList Family.implemented
    let other := { n with peerAddress := .v4 ⟨10, 0, 0, 1⟩, description := none, families }
    let c : Configuration := { blocks := [("all", families)], neighbors := [other, n] }
    Configuration.parse text = .ok c ∧
      ([other, n].filter fun n => (some "::1").all fun f => Text.contains n.name f) = [n] ∧
      ∃ steps : List Step, lines (steps.map .ok) = n.blockLines ∧
        Configuration.parse ("\n".intercalate (lines (steps.map .ok))) = .ok (.ofNeighbors [n]) := by
  intro text n families other c
  have htext : Configuration.parse text = .ok c := toOption_eq_some_iff.mp (by decide +kernel)
  have hpicked : (c.neighbors.filter fun n => (some "::1").all fun f => Text.contains n.name f) = [n] := by
    decide +kernel
  obtain ⟨steps, -, -, hlines, hagain⟩ := configuration_listing_read_again htext (some "::1")
  rw [hpicked] at hlines hagain
  refine ⟨htext, hpicked, steps, hlines.trans ?_, hagain⟩
  rw [List.flatMap_singleton]

end RouteServer.Command
