import RouteServer.Command.Listing
import RouteServer.Proofs.Schedule.Output
import RouteServer.Proofs.Text

/-! # Listings of peers while sessions change

A listing takes the peers that there are at its first step, one after the other. What it shows of a peer is
what is true when the turn of this peer comes, and a report that has been started is finished whatever happens
to the session meanwhile.
-/

namespace RouteServer

theorem Report.extensive_ne_nil (s : Session.Snapshot) : extensive s ≠ [] := by
  simp [extensive]

namespace Command

open Schedule

/-! ## Answers that are known -/

/-- These are the steps of an output before its end, if the step of number `n` sees `contexts n`. -/
def Gives (l : Listing) (contexts : Nat → StepContext) (steps : List Step) : Prop :=
  ∀ n, replies l ((List.range n).map contexts) = ((steps ++ [Step.exhausted]).map .ok).take n

variable {l l' : Listing} {contexts : Nat → StepContext} {steps : List Step}

theorem map_range_succ (contexts : Nat → StepContext) (n : Nat) :
    (List.range (n + 1)).map contexts =
      contexts 0 :: (List.range n).map fun k => contexts (k + 1) := by
  simp [List.range_succ_eq_map, Function.comp_def]

theorem gives_nil (h : l.step (contexts 0) = (.ok .exhausted, l')) : Gives l contexts [] := by
  have hstep : OutputSequence.step (contexts 0) l = (.ok .exhausted, l') := h
  rintro (_ | n)
  · rfl
  · simp [map_range_succ, replies, hstep, StepResult.ends, StepResult.closing]

theorem gives_cons {s : Step} (h : l.step (contexts 0) = (.ok s, l')) (hs : s ≠ .exhausted)
    (hrest : Gives l' (fun k => contexts (k + 1)) steps) : Gives l contexts (s :: steps) := by
  have hstep : OutputSequence.step (contexts 0) l = (.ok s, l') := h
  have hgoes : StepResult.ends (.ok s) = false := by
    cases s with
    | exhausted => exact absurd rfl hs
    | _ => rfl
  rintro (_ | n)
  · rfl
  · simp only [map_range_succ, replies, hstep, hgoes, Bool.false_eq_true, if_false, hrest n]
    rfl

/-! ## Turns -/

/-- The turn of a peer in a listing, with the steps that the listing gives for it. -/
structure Turn where
  key : Session.Key
  steps : List Step

/-- The step at which the peers are listed. -/
def PeerView.opening : PeerView → Step
  | summary => .line Report.summaryHeader
  | extensive => .idle

/-- A filter picks a peer: the summary by its address, the extensive listing by any part of its name. Without a
filter all are picked. -/
def PeerView.Picks (view : PeerView) (filter : Option String) (sessions : Session.View)
    (key : Session.Key) : Prop :=
  ∀ f ∈ filter, match view with
    | summary => ∃ address, sessions.address key = some address ∧ address.render = f
    | extensive => ∃ name, sessions.name key = some name ∧ f.toList <:+: name.toList

/-- What is shown of a peer in its turn, when the sessions are as given. -/
inductive Shows (view : PeerView) (filter : Option String) (sessions : Session.View) : Turn → Prop
  | row (key : Session.Key) (s : Session.Snapshot) (hview : view = .summary)
    (hpicks : view.Picks filter sessions key) (hs : sessions.snapshot key = some s) :
    Shows view filter sessions ⟨key, [.line (Report.summaryRow s)]⟩
  | report (key : Session.Key) (s : Session.Snapshot) (hview : view = .extensive)
    (hpicks : view.Picks filter sessions key) (hs : sessions.snapshot key = some s) :
    Shows view filter sessions ⟨key, (Report.extensive s).map .line⟩
  | nothing (key : Session.Key)
    (h : view.Picks filter sessions key → sessions.snapshot key = none) :
    Shows view filter sessions ⟨key, [.idle]⟩

theorem PeerView.any_not_selects (view : PeerView) (filter : Option String) (sessions : Session.View)
    (key : Session.Key) :
    (filter.any fun f => !view.selects sessions key f) = false ↔ view.Picks filter sessions key := by
  have hselects (f : String) : view.selects sessions key f = true ↔ view.Picks (some f) sessions key := by
    cases view <;> simp [selects, Picks, Option.any_eq_true, Text.contains_iff]
  cases filter with
  | none => simp [Picks]
  | some f => simp [← hselects]

namespace PeerListing

variable (view : PeerView) (filter : Option String)

theorem gives_waiting (keys : Option (List Session.Key)) (waiting : List String)
    (contexts : Nat → StepContext)
    (h : Gives (.peers { view, filter, keys }) (fun k => contexts (k + waiting.length)) steps) :
    Gives (.peers { view, filter, keys, waiting }) contexts (waiting.map .line ++ steps) := by
  induction waiting generalizing contexts with
  | nil => exact h
  | cons line more ih =>
    have hstep : Listing.step (contexts 0) (.peers { view, filter, keys, waiting := line :: more }) =
        (.ok (.line line), .peers { view, filter, keys, waiting := more }) := rfl
    refine gives_cons hstep nofun (ih _ ?_)
    simpa [Nat.add_assoc] using h

theorem exists_turn (key : Session.Key) (rest : List Session.Key) (contexts : Nat → StepContext) :
    ∃ turn : Turn, turn.key = key ∧ Shows view filter (contexts 0).sessions turn ∧ ∀ steps,
      Gives (.peers { view, filter, keys := some rest })
        (fun k => contexts (k + turn.steps.length)) steps →
      Gives (.peers { view, filter, keys := some (key :: rest) }) contexts (turn.steps ++ steps) := by
  have hstep : Listing.step (contexts 0) (.peers { view, filter, keys := some (key :: rest) }) =
      let shown := showPeer { view, filter, keys := some (key :: rest) } (contexts 0).sessions key rest
      (.ok shown.1, .peers shown.2) := rfl
  have hany := view.any_not_selects filter (contexts 0).sessions key
  by_cases hpicks : view.Picks filter (contexts 0).sessions key
  · simp only [showPeer, hany.mpr hpicks, Bool.false_eq_true, if_false] at hstep
    cases hs : (contexts 0).sessions.snapshot key with
    | none =>
      simp only [hs] at hstep
      exact ⟨⟨key, [.idle]⟩, rfl, .nothing key fun _ => hs, fun steps => gives_cons hstep nofun⟩
    | some s =>
      simp only [hs] at hstep
      cases view with
      | summary => exact ⟨_, rfl, .row key s rfl hpicks hs, fun steps => gives_cons hstep nofun⟩
      | extensive =>
        refine ⟨_, rfl, .report key s rfl hpicks hs, fun steps hsteps => ?_⟩
        obtain ⟨first, more, hreport⟩ := List.exists_cons_of_ne_nil (Report.extensive_ne_nil s)
        simp only [hreport] at hstep hsteps ⊢
        refine gives_cons hstep nofun (gives_waiting _ _ _ more _ ?_)
        simpa [Nat.add_assoc] using hsteps
  · simp only [showPeer, (Bool.not_eq_false _).mp (mt hany.mp hpicks), if_true] at hstep
    exact ⟨⟨key, [.idle]⟩, rfl, .nothing key fun h => absurd h hpicks,
      fun steps => gives_cons hstep nofun⟩

/-- The peers have their turns one after the other. The step of number `start` is the first. -/
theorem exists_turns (keys : List Session.Key) (contexts : Nat → StepContext) (start : Nat) :
    ∃ turns : List Turn, turns.map Turn.key = keys ∧
      (∀ early turn late, turns = early ++ turn :: late →
        Shows view filter (contexts (start + (early.flatMap Turn.steps).length)).sessions turn) ∧
      Gives (.peers { view, filter, keys := some keys }) (fun k => contexts (k + start))
        (turns.flatMap Turn.steps) := by
  induction keys generalizing start with
  | nil => exact ⟨[], rfl, by simp, gives_nil rfl⟩
  | cons key rest ih =>
    obtain ⟨turn, hkey, hshows, hgives⟩ :=
      exists_turn view filter key rest fun k => contexts (k + start)
    obtain ⟨turns, hkeys, hlater, hrest⟩ := ih (turn.steps.length + start)
    refine ⟨turn :: turns, by rw [List.map_cons, hkey, hkeys], ?_, ?_⟩
    · rintro (_ | ⟨first, early⟩) next late heq
      · obtain ⟨rfl, rfl⟩ := List.cons.inj heq
        simpa using hshows
      · obtain ⟨rfl, rfl⟩ := List.cons.inj heq
        have hnext := hlater early next late rfl
        rw [List.flatMap_cons, List.length_append]
        rwa [Nat.add_comm turn.steps.length, Nat.add_assoc] at hnext
    · simp only [← Nat.add_assoc] at hrest
      exact hgives _ hrest

end PeerListing

/-- Whatever becomes of the sessions meanwhile, each peer of the first step has one turn, in order. Its turn
shows it as it is at the step with which the turn begins. Behind the last turn the listing ends. -/
theorem peers_have_turns (view : PeerView) (filter : Option String) (contexts : Nat → StepContext) :
    ∃ turns : List Turn, turns.map Turn.key = (contexts 0).sessions.keys ∧
      (∀ early turn late, turns = early ++ turn :: late →
        Shows view filter (contexts (1 + (early.flatMap Turn.steps).length)).sessions turn) ∧
      ∀ n, replies (Listing.peers { view, filter }) ((List.range n).map contexts) =
        ((view.opening :: turns.flatMap Turn.steps ++ [Step.exhausted]).map .ok).take n := by
  obtain ⟨turns, hkeys, hshows, hgives⟩ :=
    PeerListing.exists_turns view filter (contexts 0).sessions.keys contexts 1
  refine ⟨turns, hkeys, hshows, ?_⟩
  have hopening : Listing.step (contexts 0) (.peers { view, filter }) =
      (.ok view.opening, .peers { view, filter, keys := some (contexts 0).sessions.keys }) := by
    cases view <;> rfl
  have hgoes : view.opening ≠ .exhausted := by
    cases view <;> exact nofun
  exact gives_cons hopening hgoes hgives

end Command

end RouteServer
