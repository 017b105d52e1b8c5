import RouteServer.Proofs.Command.Codeless
import RouteServer.Proofs.Console.Untitled

/-! # Modifiers of command lines

Behind the verb of a line, modifiers stand anywhere between the other words and as often as one likes. All that
counts is which ones there are: the one of highest precedence is the mode, and the last of the other words is the
filter. So two lines that only differ in where their modifiers stand show the same.
-/

namespace RouteServer.Command

open Console (Action Entry)

variable {P σ : Type}

namespace Descriptor

/-! ## What a line says -/

/-- The words of a line behind the verb. -/
def rest (d : Descriptor P σ) (line : String) : List String := (Text.words line).drop d.words.length

/-- Two lines of a command have the same modifiers, and the same other words in the same order. -/
structure SaysSame (d : Descriptor P σ) (a b : String) : Prop where
  begins : d.words <+: Text.words a ∧ d.words <+: Text.words b
  modifiers : ∀ m ∈ d.modifiers, m ∈ d.rest a ↔ m ∈ d.rest b
  others : (d.rest a).filter (· ∉ d.modifiers) = (d.rest b).filter (· ∉ d.modifiers)

/-- The mode is the first of the modifiers that are on the line, in order of precedence. The filter is the last word
that is no modifier, unless the verb ends with this word. -/
structure Reads (d : Descriptor P σ) (line : String) (i : Invocation) : Prop where
  mode : ∀ m, i.mode = some m ↔ ∃ before after, d.modifiers = before ++ m :: after ∧ m ∈ d.rest line ∧
    ∀ x ∈ before, x ∉ d.rest line
  filter : ∀ word, i.filter = some word ↔ (∃ before after, d.rest line = before ++ word :: after ∧
    word ∉ d.modifiers ∧ ∀ x ∈ after, x ∈ d.modifiers) ∧ d.words.getLast? ≠ some word

theorem reads_invocation (d : Descriptor P σ) (service : Service) (line : String) :
    d.Reads line (d.invocation service line) := by
  constructor
  · intro m
    have hfirst : (d.invocation service line).mode = d.modifiers.find? (· ∈ d.rest line) := rfl
    rw [hfirst, List.find?_eq_some_iff_append]
    constructor
    · rintro ⟨hm, before, after, hsplit, hbefore⟩
      exact ⟨before, after, hsplit, of_decide_eq_true hm, fun x hx => by simpa using hbefore x hx⟩
    · rintro ⟨before, after, hsplit, hm, hbefore⟩
      exact ⟨decide_eq_true hm, before, after, hsplit, fun x hx => by simpa using hbefore x hx⟩
  · intro word
    have hlast : (d.invocation service line).filter =
        ((d.rest line).filter (· ∉ d.modifiers)).getLast?.filter fun word => some word ≠ d.words.getLast? := rfl
    rw [hlast, Option.filter_eq_some_iff, Lists.getLast?_filter_eq_some_iff]
    simp only [decide_eq_true_eq, decide_eq_false_iff_not, Decidable.not_not]
    exact and_congr_right fun _ => ne_comm

variable {d : Descriptor P σ} {a b : String}

theorem SaysSame.mode_eq (h : d.SaysSame a b) (service : Service) :
    (d.invocation service a).mode = (d.invocation service b).mode := by
  have hsame : d.modifiers.filter (· ∈ d.rest a) = d.modifiers.filter (· ∈ d.rest b) :=
    List.filter_congr fun m hm => decide_eq_decide.mpr (h.modifiers m hm)
  have hfirst := congrArg List.head? hsame
  rwa [List.head?_filter, List.head?_filter] at hfirst

theorem SaysSame.filter_eq (h : d.SaysSame a b) (service : Service) :
    (d.invocation service a).filter = (d.invocation service b).filter :=
  congrArg (fun words => words.getLast?.filter fun word => some word ≠ d.words.getLast?) h.others

end Descriptor

/-! ## Showing neighbors -/

namespace ShowNeighbor

variable [Session.Provider P] {registry : Registry P Listing} {line : String}

theorem resolve_showNeighbor (hregistry : Registry.standard = .ok registry)
    (h : (descriptor : Descriptor P Listing).words <+: Text.words line) :
    registry.resolve (Text.words line) = some descriptor := by
  obtain ⟨rest, hrest⟩ := h
  have hshow : (descriptor : Descriptor P Listing).begins (Text.words line) = true :=
    Descriptor.begins_iff.mpr ⟨by rw [words_descriptor]; exact List.cons_ne_nil _ _, rest, hrest⟩
  have hteardown : (Teardown.descriptor : Descriptor P Listing).begins (Text.words line) = false := by
    rw [← hrest, words_descriptor]
    simp [Descriptor.begins, Teardown.words_descriptor, List.isPrefixOf]
  simp [Registry.resolve, Registry.standard_commands hregistry, hteardown, hshow, Registry.longer]

theorem dispatch_showNeighbor (hregistry : Registry.standard = .ok registry)
    (h : (descriptor : Descriptor P Listing).words <+: Text.words line) (service : Service) (sessions : P)
    (configuration : Configuration) (s : Schedule.Scheduler Listing) :
    let i := (descriptor : Descriptor P Listing).invocation service line
    let r := registry.dispatch service line sessions configuration s
    r.outcome = .ok (.scheduled ⟨s.lastId + 1⟩) ∧ r.sessions = sessions ∧ r.trace.effects = [] ∧
      r.scheduler = (s.schedule service line (listing i.mode i.filter)).2.1 := by
  simp only [Registry.dispatch, resolve_showNeighbor hregistry h]
  exact ⟨rfl, rfl, rfl, rfl⟩

theorem perform_showNeighbor {c : Console P Listing} (hregistry : Registry.standard = .ok c.registry)
    (h : (descriptor : Descriptor P Listing).words <+: Text.words line) (service : Service) :
    let i := (descriptor : Descriptor P Listing).invocation service line
    (c.perform (.dispatch service line)).1.effects =
        { dispatched := some (service, .ok (.scheduled ⟨c.scheduler.lastId + 1⟩)) } ∧
      (c.perform (.dispatch service line)).2 =
        { c with scheduler := (c.scheduler.schedule service line (listing i.mode i.filter)).2.1 } := by
  obtain ⟨houtcome, hsessions, htrace, hscheduler⟩ :=
    dispatch_showNeighbor hregistry h service c.sessions c.configuration c.scheduler
  have hdelivered : ∀ t : Trace, t.effects = [] → c.delivered t = [] := by
    intro t ht
    rw [Console.delivered, ← t.written_effects, ht]
    rfl
  simp only [Console.perform, Console.dispatch, Entry.effects, houtcome, hsessions, htrace, hscheduler,
    hdelivered _ htrace, and_self]

theorem performAll_showNeighbor {c : Console P Listing} (hregistry : Registry.standard = .ok c.registry)
    {a b : String} (h : (descriptor : Descriptor P Listing).SaysSame a b) (service : Service)
    (later : List (Action P)) :
    (c.performAll (.dispatch service a :: later)).1.map Entry.effects =
      (c.performAll (.dispatch service b :: later)).1.map Entry.effects := by
  obtain ⟨hentry, hnext⟩ := perform_showNeighbor hregistry h.begins.1 service
  obtain ⟨hentry', hnext'⟩ := perform_showNeighbor hregistry h.begins.2 service
  rw [h.mode_eq service, h.filter_eq service] at hnext
  have huntitled : (c.perform (.dispatch service a)).2.untitled = (c.perform (.dispatch service b)).2.untitled := by
    rw [hnext, hnext', Console.untitled, Console.untitled, Schedule.Scheduler.untitled_schedule rfl _ a b]
  have hlater := Console.performAll_congr huntitled later
  simp only [Console.performAll, List.map_cons, hentry, hentry', hlater]

end ShowNeighbor

/-- Where the modifiers of a line stand makes no difference: two lines with the same modifiers and the same other
words have the same mode and the same filter. After two such lines of the listing of neighbors, clients get the
same, whatever is done afterwards. -/
theorem modifiers_stand_anywhere [Session.Provider P] {c : Console P Listing}
    (hregistry : Registry.standard = .ok c.registry) :
    (∀ {Q τ : Type} (d : Descriptor Q τ) (service : Service) (a b : String), d.SaysSame a b →
      d.Reads a (d.invocation service a) ∧ d.Reads b (d.invocation service b) ∧
        (d.invocation service a).mode = (d.invocation service b).mode ∧
        (d.invocation service a).filter = (d.invocation service b).filter) ∧
    ∀ (service : Service) (a b : String), (ShowNeighbor.descriptor : Descriptor P Listing).SaysSame a b →
      ∀ later : List (Action P),
        let history := (c.performAll (.dispatch service a :: later)).1
        history.head?.bind (·.dispatched) = some (service, .ok (.scheduled ⟨c.scheduler.lastId + 1⟩)) ∧
          history.map Entry.effects = (c.performAll (.dispatch service b :: later)).1.map Entry.effects := by
  constructor
  · intro Q τ d service a b h
    exact ⟨d.reads_invocation service a, d.reads_invocation service b, h.mode_eq service, h.filter_eq service⟩
  · intro service a b h later history
    have hentry := (ShowNeighbor.perform_showNeighbor hregistry h.begins.1 service).1
    exact ⟨congrArg Entry.dispatched hentry, ShowNeighbor.performAll_showNeighbor hregistry h service later⟩

theorem summary_shown_either_way :
    let n : Neighbor := { peerAddress := .v4 ⟨10, 0, 0, 1⟩, localAs := 65000, peerAs := 65001, holdTime := 180 }
    let c : Console Session.Table Listing :=
      { registry := { commands := [Teardown.descriptor, ShowNeighbor.descriptor] }
        sessions := .ofConfiguration (.ofNeighbors [n]), configuration := .ofNeighbors [n], connected := [⟨1⟩] }
    let a := "show neighbor extensive summary 10.0.0.1"
    let b := "show  neighbor summary 10.0.0.1 summary extensive"
    let shown (line : String) : List (Service × Output) :=
      Console.History.delivered (c.performAll [.dispatch ⟨1⟩ line, .tick, .tick, .tick]).1
    Registry.standard = .ok c.registry ∧
      (ShowNeighbor.descriptor : Descriptor Session.Table Listing).SaysSame a b ∧ shown a = shown b ∧
      shown b = [(⟨1⟩, .line "Peer            AS        up/down state       |     #sent     #recvd"),
        (⟨1⟩, .line "10.0.0.1        n/a          down idle                  0          0"),
        (⟨1⟩, .marker .done)] := by
  intro n c a b shown
  have hregistry : Registry.standard = .ok c.registry := by rfl
  have hsame : (ShowNeighbor.descriptor : Descriptor Session.Table Listing).SaysSame a b :=
    ⟨by decide +kernel, by decide +kernel, by decide +kernel⟩
  have heffects := ((modifiers_stand_anywhere hregistry).2 ⟨1⟩ a b hsame [.tick, .tick, .tick]).2
  have hdelivered := congrArg Console.History.delivered heffects
  simp only [Console.History.delivered, List.flatMap_map] at hdelivered
  exact ⟨hregistry, hsame, hdelivered, by decide +kernel⟩

end RouteServer.Command
