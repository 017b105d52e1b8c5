import RouteServer.Proofs.Address.Spelling
import RouteServer.Proofs.Command.Modifiers
import RouteServer.Proofs.Command.PeerListing
import RouteServer.Proofs.Session.Snapshots

/-! # The filter of the summary

The summary compares its filter with the canonical texts of addresses, while a selector reads the address. So a peer
that a selector picks is listed if the filter is the canonical text of its address, and with any other spelling no
peer is listed.
-/

namespace RouteServer

/-! ## Tables of a configuration -/

namespace Session

theorem Table.ofConfiguration_eq_after (c : Configuration) :
    Table.ofConfiguration c = Table.after (c.neighbors.map .add) := by
  rw [Table.after, List.foldl_map]
  rfl

theorem Table.told_of_mem_keys {history : List Operation} {key : Key}
    (h : key ∈ (Table.after history).view.keys) :
    ∃ n : Neighbor, n.peerAddress = key.peerAddress ∧ (Table.after history).view.name key = some n.name ∧
      (Table.after history).view.address key = some key.peerAddress ∧
      ∃ s, (Table.after history).view.snapshot key = some s ∧ s.peerAddress = key.peerAddress := by
  obtain ⟨n, events, hlived⟩ := contains_after.mp (Keyed.contains_iff.mpr (Keyed.mem_keys_iff.mp h))
  have htold := hlived.told
  obtain ⟨s, hs, hshows⟩ := hlived.shown
  obtain rfl := hlived.key_eq
  exact ⟨n, rfl, congrArg Told.name htold, congrArg Told.address htold, s, hs, hshows.peerAddress⟩

end Session

namespace Command

open Schedule
open Session (Table Operation)

variable {w : String} {a : Address}

/-! ## The selector -/

theorem Selector.parseAll_of_parse? (h : Address.parse? w = some a) : parseAll w = .ok [.peer a []] := by
  have hpieces : Text.splitOnChar ',' w = [w] := by
    rw [Text.splitOnChar, List.splitOn_eq_singleton (Address.comma_notMem_of_parse? h), List.map_singleton,
      String.ofList_toList]
  rw [parseAll, hpieces, mapM_eq_ok_iff, List.forall₂_cons, Text.words_word (Address.isWord_of_parse? h)]
  exact ⟨ofWords_eq_ok_iff.mpr (.peer w a h [] [] .nil), .nil⟩

/-! ## The line -/

namespace ShowNeighbor

theorem words_summary (h : Text.IsWord w) :
    Text.words ("show neighbor " ++ w ++ " summary") = ["show", "neighbor", w, "summary"] := by
  have hline : "show neighbor " ++ w ++ " summary" = "show" ++ " " ++ ("neighbor" ++ " " ++ (w ++ " " ++ "summary")) :=
    String.toList_inj.mp (by simp)
  have hshow : Text.IsWord "show" := by decide
  have hneighbor : Text.IsWord "neighbor" := by decide
  have hsummary : Text.IsWord "summary" := by decide
  rw [hline]
  simp only [Text.words_append_space, Text.words_word hshow, Text.words_word hneighbor, Text.words_word h,
    Text.words_word hsummary]
  rfl

theorem invocation_summary {P : Type} (h : Address.parse? w = some a) (service : Service) :
    let i := (descriptor : Descriptor P Listing).invocation service ("show neighbor " ++ w ++ " summary")
    i.mode = some "summary" ∧ i.filter = some w := by
  have hother {word : String} (hword : Address.parse? word = none) : word ≠ w := by
    rintro rfl
    cases hword.symm.trans h
  have hjson : "json" ≠ w := hother (by decide +kernel)
  have hsummary : "summary" ≠ w := hother (by decide +kernel)
  have hextensive : "extensive" ≠ w := hother (by decide +kernel)
  have hconfiguration : "configuration" ≠ w := hother (by decide +kernel)
  have hneighbor : "neighbor" ≠ w := hother (by decide +kernel)
  simp only [Descriptor.invocation, words_summary (Address.isWord_of_parse? h), words_descriptor]
  constructor
  · simp [descriptor, modifiers, hjson]
  · simp [descriptor, modifiers, hjson.symm, hsummary.symm, hextensive.symm, hconfiguration.symm, hneighbor.symm]

theorem dispatch_summary {registry : Registry Table Listing} (hregistry : Registry.standard = .ok registry)
    (h : Address.parse? w = some a) (service : Service) (sessions : Table) (configuration : Configuration)
    (s : Scheduler Listing) :
    let line := "show neighbor " ++ w ++ " summary"
    let r := registry.dispatch service line sessions configuration s
    r.outcome = .ok (.scheduled ⟨s.lastId + 1⟩) ∧
      r.scheduler = (s.schedule service line (.peers { view := .summary, filter := some w })).2.1 := by
  intro line r
  have hbegins : (descriptor : Descriptor Table Listing).words <+: Text.words line := by
    rw [words_descriptor, words_summary (Address.isWord_of_parse? h)]
    exact ⟨[w, "summary"], rfl⟩
  obtain ⟨hmode, hfilter⟩ := invocation_summary (P := Table) h service
  obtain ⟨houtcome, -, -, hscheduler⟩ := dispatch_showNeighbor hregistry hbegins service sessions configuration s
  rw [hmode, hfilter] at hscheduler
  exact ⟨houtcome, hscheduler⟩

end ShowNeighbor

/-! ## The listing -/

theorem lines_of_shows {sessions : Session.View} {filter : String} {turns : List Turn}
    (h : ∀ turn ∈ turns, Shows .summary (some filter) sessions turn) :
    lines ((turns.flatMap Turn.steps).map .ok) =
      (((turns.map Turn.key).filter fun key => PeerView.summary.selects sessions key filter).filterMap
        sessions.snapshot).map Report.summaryRow := by
  have hselects (key : Session.Key) : PeerView.summary.selects sessions key filter = true ↔
      PeerView.summary.Picks (some filter) sessions key := by
    simpa using PeerView.any_not_selects .summary (some filter) sessions key
  induction turns with
  | nil => rfl
  | cons turn rest ih =>
    obtain ⟨hturn, hrest⟩ := List.forall_mem_cons.mp h
    rw [List.flatMap_cons, List.map_append, lines, List.filterMap_append, List.map_cons, List.filter_cons]
    have hlater := ih hrest
    rw [lines] at hlater
    rw [hlater]
    cases hturn with
    | row key s hview hpicks hs => simp [(hselects key).mpr hpicks, hs, StepResult.line?]
    | report key s hview => cases hview
    | nothing key hnothing =>
      by_cases hpicks : PeerView.summary.Picks (some filter) sessions key
      · simp [(hselects key).mpr hpicks, hnothing hpicks, StepResult.line?]
      · simp [mt (hselects key).mp hpicks, StepResult.line?]

theorem summary_gives (filter : String) {sessions : Session.View} {contexts : Nat → StepContext}
    (h : ∀ n, (contexts n).sessions = sessions) : ∃ steps,
      Gives (.peers { view := .summary, filter := some filter }) contexts steps ∧
      lines (steps.map .ok) = Report.summaryHeader ::
        ((sessions.keys.filter fun key => PeerView.summary.selects sessions key filter).filterMap
          sessions.snapshot).map Report.summaryRow := by
  obtain ⟨turns, hkeys, hshows, hgives⟩ := PeerListing.exists_turns .summary (some filter) sessions.keys contexts 1
  have hturns : ∀ turn ∈ turns, Shows .summary (some filter) sessions turn := by
    intro turn hturn
    obtain ⟨early, late, hsplit⟩ := List.append_of_mem hturn
    have hshown := hshows early turn late hsplit
    rwa [h] at hshown
  have hopening : Listing.step (contexts 0) (.peers { view := .summary, filter := some filter }) =
      (.ok (.line Report.summaryHeader),
        .peers { view := .summary, filter := some filter, keys := some sessions.keys }) := by
    rw [← h 0]
    rfl
  refine ⟨_, gives_cons hopening nofun hgives, ?_⟩
  rw [← hkeys, ← lines_of_shows hturns]
  rfl

/-- An address is selected by its canonical text, and by no other spelling. -/
theorem filter_selects (hw : Address.parse? w = some a) (history : List Operation) :
    let view := (Table.after history).view
    view.keys.filter (fun key => PeerView.summary.selects view key w) =
      if w = a.render then view.keys.filter fun key => key.peerAddress = a else [] := by
  intro view
  have hselects : ∀ key ∈ view.keys,
      PeerView.summary.selects view key w = decide (w = a.render ∧ key.peerAddress = a) := by
    intro key hkey
    obtain ⟨n, -, -, haddress, -⟩ := Table.told_of_mem_keys hkey
    rw [PeerView.selects, haddress, Option.any_some, decide_eq_decide]
    constructor
    · rintro rfl
      obtain rfl := Option.some.inj ((Address.parse?_render key.peerAddress).symm.trans hw)
      exact ⟨rfl, rfl⟩
    · rintro ⟨rfl, rfl⟩
      rfl
  rw [List.filter_congr hselects]
  split
  · rename_i hcanonical
    simp [hcanonical]
  · rename_i hother
    simp [hother]

/-- The selector that is read from an address picks the sessions with this peer address. A line for the summary that
has the same spelling of the address as its filter queues a listing of these sessions if this is the canonical text.
With any other spelling none of them is listed. -/
theorem summary_listed_by_canonical_text {registry : Registry Table Listing}
    (hregistry : Registry.standard = .ok registry) (hw : Address.parse? w = some a) (c : Configuration)
    (later : List Operation) :
    let t := later.foldl Table.perform (.ofConfiguration c)
    let picked := t.view.keys.filter fun key => key.peerAddress = a
    let line := "show neighbor " ++ w ++ " summary"
    let listing := Listing.peers { view := .summary, filter := some w }
    (Selector.parseAll w = .ok [.peer a []] ∧ ∀ key ∈ t.view.keys,
      (∃ name, t.view.name key = some name ∧ ((Selector.peer a []).matchesName name = true ↔ key ∈ picked)) ∧
      ∃ s, t.view.snapshot key = some s ∧ s.peerAddress = key.peerAddress) ∧
    (∀ service configuration s,
      let r := registry.dispatch service line t configuration s
      r.outcome = .ok (.scheduled ⟨s.lastId + 1⟩) ∧ r.scheduler = (s.schedule service line listing).2.1) ∧
    ∀ contexts : Nat → StepContext, (∀ n, (contexts n).sessions = t.view) → ∃ steps,
      (∀ n, replies listing ((List.range n).map contexts) = ((steps ++ [.exhausted]).map .ok).take n) ∧
      lines (steps.map .ok) = Report.summaryHeader ::
        if w = a.render then (picked.filterMap t.view.snapshot).map Report.summaryRow else [] := by
  intro t picked line listing
  have hafter : t = Table.after (c.neighbors.map .add ++ later) := by
    rw [Table.after_append, ← Table.ofConfiguration_eq_after]
  refine ⟨⟨Selector.parseAll_of_parse? hw, fun key hkey => ?_⟩, ?_, fun contexts hcontexts => ?_⟩
  · obtain ⟨n, hn, hname, -, s, hs, haddress⟩ := Table.told_of_mem_keys (hafter ▸ hkey)
    rw [← hafter] at hname hs
    refine ⟨⟨_, hname, ?_⟩, s, hs, haddress⟩
    rw [matchesName_iff, List.mem_filter, decide_eq_true_eq]
    simp [Selector.Describes, hn, hkey, eq_comm]
  · exact fun service configuration s => ShowNeighbor.dispatch_summary hregistry hw service t configuration s
  · obtain ⟨steps, hgives, hlines⟩ := summary_gives w hcontexts
    have hselected := filter_selects hw (c.neighbors.map .add ++ later)
    simp only [← hafter] at hselected
    refine ⟨steps, hgives, hlines.trans ?_⟩
    rw [hselected]
    split <;> rfl

theorem canonical_text_listed :
    let a : Address := .v6 ⟨#v[0x2001, 0xDB8, 0, 0, 0, 0, 0, 1]⟩
    let n : Neighbor := { peerAddress := a, localAs := 65000, peerAs := 65001, holdTime := 180 }
    let c := Configuration.ofNeighbors [n, { n with peerAddress := .v4 ⟨10, 0, 0, 2⟩ }]
    let registry : Registry Table Listing := { commands := [Teardown.descriptor, ShowNeighbor.descriptor] }
    let t := [Operation.advance 1000].foldl Table.perform (.ofConfiguration c)
    let w := "2001:db8::1"
    Registry.standard = .ok registry ∧ Address.parse? w = some a ∧ w = a.render ∧
      ∃ steps, Gives (.peers { view := .summary, filter := some w }) (fun _ => ⟨t.view, c⟩) steps ∧
        lines (steps.map .ok) =
          [Report.summaryHeader, "2001:db8::1     n/a          down idle                  0          0"] := by
  intro a n c registry t w
  have hregistry : Registry.standard = .ok registry := by rfl
  have hw : Address.parse? w = some a := by decide +kernel
  obtain ⟨-, -, hlisted⟩ := summary_listed_by_canonical_text hregistry hw c [.advance 1000]
  obtain ⟨steps, hgives, hlines⟩ := hlisted (fun _ => ⟨t.view, c⟩) fun _ => rfl
  refine ⟨hregistry, hw, by decide +kernel, steps, hgives, hlines.trans ?_⟩
  decide +kernel

/-- The selector reads capital letters, while the summary finds no peer by them. -/
theorem capital_letters_not_listed :
    let a : Address := .v6 ⟨#v[0x2001, 0xDB8, 0, 0, 0, 0, 0, 1]⟩
    let n : Neighbor := { peerAddress := a, localAs := 65000, peerAs := 65001, holdTime := 180 }
    let c := Configuration.ofNeighbors [n]
    let console : Console Table Listing :=
      { registry := { commands := [Teardown.descriptor, ShowNeighbor.descriptor] }
        sessions := .ofConfiguration c, configuration := c, connected := [⟨1⟩] }
    let shown (w : String) : List (Service × Output) :=
      Console.History.delivered
        (console.performAll [.dispatch ⟨1⟩ ("show neighbor " ++ w ++ " summary"), .tick, .tick, .tick]).1
    let w := "2001:DB8::1"
    Configuration.parse "neighbor 2001:db8::1 \x7b local-as 65000; peer-as 65001; \x7d" = .ok c ∧
      Registry.standard = .ok console.registry ∧ Address.parse? w = some a ∧
      Selector.parseAll w = .ok [.peer a []] ∧ (Selector.peer a []).matchesName n.name = true ∧
      shown w = [(⟨1⟩, .line Report.summaryHeader), (⟨1⟩, .marker .done)] ∧
      shown a.render = [(⟨1⟩, .line Report.summaryHeader),
        (⟨1⟩, .line "2001:db8::1     n/a          down idle                  0          0"), (⟨1⟩, .marker .done)] := by
  intro a n c console shown w
  refine ⟨toOption_eq_some_iff.mp (by decide +kernel), rfl, by decide +kernel, ?_, by decide +kernel,
    by decide +kernel, by decide +kernel⟩
  exact toOption_eq_some_iff.mp (by decide +kernel)

end Command

end RouteServer
