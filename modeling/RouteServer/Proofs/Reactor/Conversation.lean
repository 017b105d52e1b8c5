import RouteServer.Proofs.Reactor.Cell

/-! # What is said to one client

A client gets the whole responses to its commands in the order of the commands, and at the end a part of
one more response at most. `Conversation` says so of a cell, and every run of a cell keeps it.
-/

namespace RouteServer

open Channel Command Schedule

/-- A command and what has been written for it. -/
structure Exchange where
  line : String
  output : List Output

/-- The commands of finished exchanges and of the one after them. -/
def Exchange.lines (finished : List Exchange) (current : Option Exchange) : List String :=
  (finished ++ current.toList).map (·.line)

/-- What was written for finished exchanges and for the one after them. -/
def Exchange.written (finished : List Exchange) (current : Option Exchange) : List Output :=
  (finished ++ current.toList).flatMap (·.output)

theorem Exchange.lines_finish (finished : List Exchange) (x : Exchange) :
    Exchange.lines (finished ++ [x]) none = Exchange.lines finished (some x) := by
  simp [lines]

theorem Exchange.written_finish (finished : List Exchange) (x : Exchange) :
    Exchange.written (finished ++ [x]) none = Exchange.written finished (some x) := by
  simp [written]

theorem Exchange.lines_begin (finished : List Exchange) (x : Exchange) :
    Exchange.lines finished (some x) = Exchange.lines finished none ++ [x.line] := by
  simp [lines]

theorem Exchange.written_begin (finished : List Exchange) (x : Exchange) :
    Exchange.written finished (some x) = Exchange.written finished none ++ x.output := by
  simp [written]

variable {P σ : Type} [OutputSequence σ] (registry : Registry P σ) (configuration : Configuration)
  (service : Service)

/-- The exchange that is not finished: there is none, its output is under way, or it has been given up
together with the client. -/
inductive Unfinished (cell : Cell σ) : Option Exchange → Prop
  | idle (hidle : cell.outputs = []) : Unfinished cell none
  | running (x : Exchange) (rest : σ) (houtputs : cell.outputs = [rest])
    (hunderway : Underway registry configuration service x.line x.output rest) :
    Unfinished cell (some x)
  | abandoned (x : Exchange) (rest : σ) (hidle : cell.outputs = []) (hgone : cell.connected = false)
    (hunderway : Underway registry configuration service x.line x.output rest) :
    Unfinished cell (some x)

/-- All that has passed between the daemon and a client, by finished exchanges and one unfinished. -/
structure Conversation (cell : Cell σ) (traffic : Traffic) (finished : List Exchange)
    (current : Option Exchange) : Prop where
  whole : ∀ x ∈ finished, Responds registry configuration service x.line x.output
  unfinished : Unfinished registry configuration service cell current
  written : traffic.written = Exchange.written finished current
  order : Exchange.lines finished current <+: commands traffic.received
  sent : traffic.sent <+: encode traffic.written
  /-- As long as the client is there, no command and no byte is lost. -/
  present : ∀ c, cell.client = some c → c.Framed traffic.received (Exchange.lines finished current) ∧
    traffic.sent ++ c.outbound = encode traffic.written
  /-- Nothing has happened to a number that has not been given out. -/
  fresh : cell.given = false → cell.client = none ∧ cell.outputs = [] ∧ traffic = {}

variable {registry configuration service}

theorem Unfinished.transfer {cell next : Cell σ} {current : Option Exchange}
    (h : Unfinished registry configuration service cell current) (houtputs : next.outputs = cell.outputs)
    (hgone : cell.connected = false → next.connected = false) :
    Unfinished registry configuration service next current := by
  cases h with
  | idle hidle => exact .idle (houtputs.trans hidle)
  | running x rest hrest hunderway => exact .running x rest (houtputs.trans hrest) hunderway
  | abandoned x rest hidle hlost hunderway =>
    exact .abandoned x rest (houtputs.trans hidle) (hgone hlost) hunderway

theorem Unfinished.abandon {cell next : Cell σ} {current : Option Exchange}
    (h : Unfinished registry configuration service cell current) (houtputs : next.outputs = [])
    (hgone : next.connected = false) : Unfinished registry configuration service next current := by
  cases h with
  | idle hidle => exact .idle houtputs
  | running x rest hrest hunderway => exact .abandoned x rest houtputs hgone hunderway
  | abandoned x rest hidle hlost hunderway => exact .abandoned x rest houtputs hgone hunderway

theorem Unfinished.eq_none {cell : Cell σ} {current : Option Exchange} {c : Client}
    (h : Unfinished registry configuration service cell current) (hc : cell.client = some c)
    (hopen : c.closed = false) (hidle : cell.outputs = []) : current = none := by
  cases h with
  | idle => rfl
  | running x rest hrest => simp [hrest] at hidle
  | abandoned x rest _ hgone => simp [Cell.connected_eq hc, hopen] at hgone

theorem Unfinished.underway {cell : Cell σ} {x : Exchange}
    (h : Unfinished registry configuration service cell (some x)) :
    ∃ rest, Underway registry configuration service x.line x.output rest := by
  cases h with
  | running _ rest _ hunderway => exact ⟨rest, hunderway⟩
  | abandoned _ rest _ _ hunderway => exact ⟨rest, hunderway⟩

namespace Conversation

variable {cell : Cell σ} {traffic : Traffic} {finished : List Exchange} {current : Option Exchange}
  {c : Client}

theorem start (given : Bool) :
    Conversation registry configuration service ({ given } : Cell σ) {} [] none where
  whole := by simp
  unfinished := .idle rfl
  written := rfl
  order := List.nil_prefix
  sent := List.nil_prefix
  present := by simp
  fresh := fun _ => ⟨rfl, rfl, rfl⟩

theorem given (h : Conversation registry configuration service cell traffic finished current)
    (hc : cell.client = some c) : cell.given = true := by
  cases hgiven : cell.given with
  | true => rfl
  | false =>
    have := (h.fresh hgiven).1
    rw [hc] at this
    cases this

theorem whole_concat (h : Conversation registry configuration service cell traffic finished current)
    {line : String} {output : List Output}
    (hresponse : Responds registry configuration service line output) :
    ∀ x ∈ finished ++ [⟨line, output⟩], Responds registry configuration service x.line x.output := by
  intro x hx
  rcases List.mem_append.mp hx with hx | hx
  · exact h.whole x hx
  · obtain rfl := List.mem_singleton.mp hx
    exact hresponse

/-! ## What each act keeps -/

theorem join (h : Conversation registry configuration service cell traffic finished current)
    (hfree : cell.given = false) :
    Conversation registry configuration service { cell with client := some {}, given := true }
      (traffic ++ {}) finished current := by
  -- Nothing has passed under a free number, so there is no exchange yet either.
  obtain ⟨-, houtputs, rfl⟩ := h.fresh hfree
  have hlines : Exchange.lines finished current = [] := List.prefix_nil.mp h.order
  have hnone : current = none := by
    cases current with
    | none => rfl
    | some x => simp [Exchange.lines] at hlines
  rw [Traffic.append_empty]
  refine ⟨h.whole, hnone ▸ .idle houtputs, h.written, h.order, h.sent, ?_, fun hgiven => nomatch hgiven⟩
  rintro c hc
  obtain rfl := Option.some.inj hc
  exact ⟨⟨by rw [hlines]; rfl, rfl⟩, rfl⟩

theorem read (h : Conversation registry configuration service cell traffic finished current)
    (hc : cell.client = some c) (pieces : List (List UInt8)) (inputEnded : Bool) {closed : Bool}
    (hclosed : c.closed = true → closed = true) :
    Conversation registry configuration service
      { cell with client := some { pieces.foldl Client.feed c with inputEnded, closed } }
      (traffic ++ { received := pieces.flatten }) finished current where
  whole := h.whole
  unfinished := h.unfinished.transfer rfl (Cell.disconnected_of_closed hc rfl hclosed)
  written := (List.append_nil _).trans h.written
  order := by
    rw [Traffic.received_append, commands_append]
    exact h.order.trans (List.prefix_append _ _)
  sent := by simpa using h.sent
  present := by
    rintro _ ⟨⟩
    obtain ⟨hframed, hsent⟩ := h.present c hc
    obtain ⟨hlines, hunfinished⟩ := hframed.foldl pieces
    refine ⟨⟨hlines, hunfinished⟩, ?_⟩
    rw [Client.foldl_feed_outbound]
    simpa using hsent
  fresh := fun hfree => nomatch (h.given hc).symm.trans hfree

theorem leave (h : Conversation registry configuration service cell traffic finished current) :
    Conversation registry configuration service { cell with client := none, outputs := [] }
      (traffic ++ {}) finished current := by
  rw [Traffic.append_empty]
  exact {
    whole := h.whole
    unfinished := h.unfinished.abandon rfl rfl
    written := h.written
    order := h.order
    sent := h.sent
    present := fun c hc => nomatch hc
    fresh := fun hfree => ⟨rfl, rfl, (h.fresh hfree).2.2⟩ }

theorem abandon (h : Conversation registry configuration service cell traffic finished current)
    (hgone : cell.connected = false) :
    Conversation registry configuration service { cell with outputs := [] } (traffic ++ {}) finished
      current := by
  rw [Traffic.append_empty]
  exact {
    whole := h.whole
    unfinished := h.unfinished.abandon rfl hgone
    written := h.written
    order := h.order
    sent := h.sent
    present := h.present
    fresh := fun hfree => ⟨(h.fresh hfree).1, rfl, (h.fresh hfree).2.2⟩ }

theorem send (h : Conversation registry configuration service cell traffic finished current)
    (hc : cell.client = some c) {sent outbound : List UInt8} {closed : Bool}
    (hout : c.outbound = sent ++ outbound) (hclosed : c.closed = true → closed = true) :
    Conversation registry configuration service { cell with client := some { c with outbound, closed } }
      (traffic ++ { sent }) finished current := by
  obtain ⟨⟨hlines, hunfinished⟩, hsent⟩ := h.present c hc
  have hall : (traffic.sent ++ sent) ++ outbound = encode traffic.written := by
    rw [List.append_assoc, ← hout, hsent]
  exact {
    whole := h.whole
    unfinished := h.unfinished.transfer rfl (Cell.disconnected_of_closed hc rfl hclosed)
    written := (List.append_nil _).trans h.written
    order := by simpa using h.order
    sent := by
      rw [Traffic.written_append, List.append_nil, ← hall]
      exact List.prefix_append _ _
    present := by
      rintro _ ⟨⟩
      exact ⟨⟨by simpa using hlines, by simpa using hunfinished⟩, by simpa using hall⟩
    fresh := fun hfree => nomatch (h.given hc).symm.trans hfree }

theorem write (h : Conversation registry configuration service cell traffic finished current)
    (hc : cell.client = some c) (taken : List String) {rest : List String}
    (hrest : c.lines = taken ++ rest)
    (outputs : List σ) (output : List Output) {finished' : List Exchange} {current' : Option Exchange}
    (hwhole : ∀ x ∈ finished', Responds registry configuration service x.line x.output)
    (hunfinished : ∀ next : Cell σ, next.outputs = outputs →
      Unfinished registry configuration service next current')
    (hlines : Exchange.lines finished' current' = Exchange.lines finished current ++ taken)
    (hwritten : Exchange.written finished' current' = Exchange.written finished current ++ output) :
    Conversation registry configuration service
      { cell with
        client := some { c with lines := rest, outbound := c.outbound ++ encode output }
        outputs := outputs }
      (traffic ++ { written := output }) finished' current' := by
  obtain ⟨⟨htaken, hremainder⟩, hsent⟩ := h.present c hc
  have hall : traffic.sent ++ (c.outbound ++ encode output) = encode (traffic.written ++ output) := by
    rw [encode_append, ← hsent, List.append_assoc]
  have hcommands : Exchange.lines finished' current' ++ rest = commands traffic.received := by
    rw [hlines, List.append_assoc, ← hrest, htaken]
  exact {
    whole := hwhole
    unfinished := hunfinished _ rfl
    written := by rw [Traffic.written_append, h.written, hwritten]
    order := by
      rw [Traffic.received_append, List.append_nil, ← hcommands]
      exact List.prefix_append _ _
    sent := by
      rw [Traffic.sent_append, List.append_nil, Traffic.written_append, ← hall]
      exact List.prefix_append _ _
    present := by
      rintro _ ⟨⟩
      exact ⟨⟨by simpa using hcommands, by simpa using hremainder⟩, by simpa using hall⟩
    fresh := fun hfree => nomatch (h.given hc).symm.trans hfree }

theorem answer (h : Conversation registry configuration service cell traffic finished current)
    (hc : cell.client = some c) (hopen : c.closed = false) (hidle : cell.outputs = [])
    {line : String} {rest : List String} (hlines : c.lines = line :: rest) {output : List Output}
    (hresponse : Responds registry configuration service line output) :
    Conversation registry configuration service
      { cell with client := some { c with lines := rest, outbound := c.outbound ++ encode output } }
      (traffic ++ { written := output }) (finished ++ [⟨line, output⟩]) none := by
  obtain rfl := h.unfinished.eq_none hc hopen hidle
  exact h.write hc [line] hlines cell.outputs output (h.whole_concat hresponse)
    (fun next houtputs => .idle (houtputs.trans hidle))
    ((Exchange.lines_finish ..).trans (Exchange.lines_begin ..))
    ((Exchange.written_finish ..).trans (Exchange.written_begin ..))

theorem schedule (h : Conversation registry configuration service cell traffic finished current)
    (hc : cell.client = some c) (hopen : c.closed = false) (hidle : cell.outputs = [])
    {line : String} {rest : List String} (hlines : c.lines = line :: rest) {sequence : σ}
    (hbegins : Begins registry configuration service line sequence) :
    Conversation registry configuration service
      { cell with client := some { c with lines := rest }, outputs := [sequence] }
      (traffic ++ {}) finished (some ⟨line, []⟩) := by
  obtain rfl := h.unfinished.eq_none hc hopen hidle
  have := h.write hc [line] hlines [sequence] [] h.whole
    (fun next houtputs => .running ⟨line, []⟩ sequence houtputs (Underway.begin hbegins))
    (Exchange.lines_begin ..) (Exchange.written_begin ..)
  rwa [encode_nil, List.append_nil] at this

theorem step (h : Conversation registry configuration service cell traffic finished current)
    (hc : cell.client = some c) (hopen : c.closed = false) (context : StepContext) :
    ∃ finished' current', Conversation registry configuration service
      { cell with
        client := some
          { c with outbound := c.outbound ++ encode (cell.outputs.flatMap (Schedule.given context)) }
        outputs := cell.outputs.filterMap (proceed context) }
      (traffic ++ { written := cell.outputs.flatMap (Schedule.given context) }) finished' current' := by
  -- One output at most is under way, so all that is written belongs to the unfinished exchange.
  cases h.unfinished with
  | idle hidle =>
    refine ⟨finished, none, h.write hc [] rfl _ _ h.whole (fun next houtputs => .idle ?_) ?_ ?_⟩
    · rw [houtputs, hidle, List.filterMap_nil]
    · rw [List.append_nil]
    · rw [hidle, List.flatMap_nil, List.append_nil]
  | running x rest hrest hunderway =>
    cases hends : StepResult.ends (OutputSequence.step context rest).1 with
    | true =>
      have hwhole := h.whole_concat (hunderway.ends context hends)
      refine ⟨_, none, h.write hc [] rfl _ _ hwhole (fun next houtputs => .idle ?_) ?_ ?_⟩
      · simp [houtputs, hrest, proceed, hends]
      · simp [Exchange.lines]
      · simp [Exchange.written, hrest, Schedule.given]
    | false =>
      refine ⟨finished, some ⟨x.line, x.output ++ Schedule.given context rest⟩,
        h.write hc [] rfl _ _ h.whole (fun next houtputs => .running _ _ ?_
          (hunderway.goes context hends)) ?_ ?_⟩
      · simp [houtputs, hrest, proceed, hends]
      · simp [Exchange.lines]
      · simp [Exchange.written, hrest, Schedule.given]
  | abandoned x rest hidle hgone =>
    rw [Cell.connected_eq hc, hopen] at hgone
    cases hgone

/-! ## Runs -/

/-- Whatever happens, the conversation goes on. -/
theorem act {next : Cell σ} {more : Traffic}
    (h : Conversation registry configuration service cell traffic finished current)
    (hact : Cell.Act registry configuration service cell more next) :
    ∃ finished current, Conversation registry configuration service next (traffic ++ more) finished
      current := by
  cases hact with
  | join hfree => exact ⟨_, _, h.join hfree⟩
  | read c pieces inputEnded closed hc hclosed => exact ⟨_, _, h.read hc pieces inputEnded hclosed⟩
  | leave => exact ⟨_, _, h.leave⟩
  | answer c line rest output hc hopen hidle hlines hresponse =>
    exact ⟨_, _, h.answer hc hopen hidle hlines hresponse⟩
  | schedule c line rest sequence hc hopen hidle hlines hbegins =>
    exact ⟨_, _, h.schedule hc hopen hidle hlines hbegins⟩
  | step c context hc hopen => exact h.step hc hopen context
  | abandon hgone => exact ⟨_, _, h.abandon hgone⟩
  | send c sent outbound closed hc hout hclosed => exact ⟨_, _, h.send hc hout hclosed⟩

theorem acts {next : Cell σ} {more : Traffic}
    (h : Conversation registry configuration service cell traffic finished current)
    (hacts : Cell.Acts registry configuration service cell more next) :
    ∃ finished current, Conversation registry configuration service next (traffic ++ more) finished
      current := by
  induction hacts generalizing traffic finished current with
  | refl cell => exact ⟨_, _, (Traffic.append_empty traffic).symm ▸ h⟩
  | head hfirst hrest ih =>
    obtain ⟨_, _, hnext⟩ := h.act hfirst
    rw [← Traffic.append_assoc]
    exact ih hnext

end Conversation

end RouteServer
