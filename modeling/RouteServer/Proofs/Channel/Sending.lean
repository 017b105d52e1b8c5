import Mathlib.Data.List.Nodup
import RouteServer.Proofs.Channel.Reading

/-! # Sending lines to clients

What a client's socket has taken and what still waits for it are the lines that were written for it while it
was connected, in order and each once. A client whose socket fails is reported and left alone from then on.
What becomes of a client is decided by its own lines and its own socket: `fate` follows one client, and by
`sendAll_fate` it fares the same among any others.
-/

namespace RouteServer

namespace Channel

/-! ## One call -/

/-- The writes of a call come to one that fails, or that takes nothing, while bytes are still to be sent. -/
inductive Breaks : Nat → List WriteOutcome → Prop
  | nothing (pending : Nat) (rest : List WriteOutcome) (hpending : 0 < pending) :
    Breaks pending (.accepted 0 :: rest)
  | failed (pending : Nat) (cause : SystemError) (rest : List WriteOutcome) (hpending : 0 < pending) :
    Breaks pending (.failed cause :: rest)
  | accepted (pending count : Nat) (rest : List WriteOutcome)
    (hrest : Breaks (pending - (count + 1)) rest) : Breaks pending (.accepted (count + 1) :: rest)
  | interrupted (pending : Nat) (rest : List WriteOutcome) (hrest : Breaks pending rest) :
    Breaks pending (.interrupted :: rest)

theorem Breaks.pos {pending : Nat} {outcomes : List WriteOutcome} (h : Breaks pending outcomes) :
    0 < pending := by
  induction h with
  | nothing pending rest hpending => exact hpending
  | failed pending cause rest hpending => exact hpending
  | accepted pending count rest hrest ih => exact Nat.lt_of_lt_of_le ih (Nat.sub_le ..)
  | interrupted pending rest hrest ih => exact ih

/-- None of the writes fails, and each that goes through takes something. -/
def Accepting (outcomes : List WriteOutcome) : Prop :=
  ∀ outcome ∈ outcomes, outcome ≠ .accepted 0 ∧ ∀ cause, outcome ≠ .failed cause

theorem Accepting.not_breaks {outcomes : List WriteOutcome} (h : Accepting outcomes) (pending : Nat) :
    ¬ Breaks pending outcomes := by
  intro hbreaks
  induction hbreaks with
  | nothing pending rest hpending => exact (h _ List.mem_cons_self).1 rfl
  | failed pending cause rest hpending => exact (h _ List.mem_cons_self).2 cause rfl
  | accepted pending count rest hrest ih => exact ih fun outcome hmem => h outcome (List.mem_cons_of_mem _ hmem)
  | interrupted pending rest hrest ih => exact ih fun outcome hmem => h outcome (List.mem_cons_of_mem _ hmem)

theorem not_breaks_nil (pending : Nat) : ¬ Breaks pending [] := by
  intro h
  cases h

theorem not_breaks_wouldBlock (pending : Nat) (rest : List WriteOutcome) :
    ¬ Breaks pending (.wouldBlock :: rest) := by
  intro h
  cases h

namespace Client

theorem drain_failure_iff (outbound : List UInt8) (outcomes : List WriteOutcome) :
    (drain outbound outcomes).failure.isSome = true ↔ Breaks outbound.length outcomes := by
  fun_induction drain outbound outcomes with
  | case1 outbound => exact iff_of_false Bool.false_ne_true (not_breaks_nil _)
  | case2 outcome rest =>
    exact iff_of_false Bool.false_ne_true fun h => absurd h.pos (Nat.lt_irrefl 0)
  | case3 outbound rest hne => exact iff_of_true rfl (.nothing _ _ (List.length_pos_iff.mpr hne))
  | case4 outbound rest hne n r ih =>
    rw [List.length_drop] at ih
    refine ih.trans ⟨.accepted _ n rest, fun h => ?_⟩
    cases h with
    | accepted pending count rest hrest => exact hrest
  | case5 outbound rest hne => exact iff_of_false Bool.false_ne_true (not_breaks_wouldBlock _ _)
  | case6 outbound rest hne ih =>
    refine ih.trans ⟨.interrupted _ rest, fun h => ?_⟩
    cases h with
    | interrupted pending rest hrest => exact hrest
  | case7 outbound rest hne cause =>
    exact iff_of_true rfl (.failed _ cause rest (List.length_pos_iff.mpr hne))

end Client

/-! ## One client -/

/-- What is done to a client when lines are sent: one is written for it, or it is flushed. -/
inductive Share where
  | write (line : String)
  | flush (outcomes : List WriteOutcome)

/-- The line that is written. -/
def Share.line? : Share → Option String
  | write line => some line
  | flush _ => none

/-- What becomes of a client: the client, the bytes that its socket has taken, and how often it has been
reported. -/
structure Fate where
  client : Client
  sent : List UInt8 := []
  reports : Nat := 0

/-- The bytes of lines. -/
def bytesOf (lines : List String) : List UInt8 :=
  lines.flatMap fun line => Utf8.encode line ++ [lineFeed]

namespace Client

def undergo (c : Client) : Share → Fate
  | .write line => { client := c.writeLine line }
  | .flush outcomes =>
    if c.closed then { client := c }
    else
      let r := drain c.outbound outcomes
      { client := { c with outbound := r.outbound, closed := r.failure.isSome }
        sent := r.sent
        reports := if r.failure.isSome then 1 else 0 }

def fate (c : Client) : List Share → Fate
  | [] => { client := c }
  | share :: later =>
    let now := c.undergo share
    let rest := now.client.fate later
    { rest with sent := now.sent ++ rest.sent, reports := now.reports + rest.reports }

theorem fate_append (c : Client) (early late : List Share) :
    let first := c.fate early
    let rest := first.client.fate late
    c.fate (early ++ late) =
      { rest with sent := first.sent ++ rest.sent, reports := first.reports + rest.reports } := by
  induction early generalizing c with
  | nil => simp [fate]
  | cons share later ih => simp [fate, ih, Nat.add_assoc]

theorem undergo_of_closed {c : Client} (h : c.closed = true) (share : Share) :
    c.undergo share = { client := c } := by
  cases share <;> simp [undergo, writeLine, h]

theorem fate_of_closed {c : Client} (h : c.closed = true) (shares : List Share) :
    c.fate shares = { client := c } := by
  induction shares with
  | nil => rfl
  | cons share later ih => simp [fate, undergo_of_closed h, ih]

/-- What a client has sent is as it was. -/
structure SameInput (c next : Client) : Prop where
  unfinished : next.unfinished = c.unfinished
  lines : next.lines = c.lines
  inputEnded : next.inputEnded = c.inputEnded

theorem SameInput.trans {c next last : Client} (h : SameInput c next) (h' : SameInput next last) :
    SameInput c last :=
  ⟨h'.unfinished.trans h.unfinished, h'.lines.trans h.lines, h'.inputEnded.trans h.inputEnded⟩

theorem undergo_sameInput (c : Client) (share : Share) : SameInput c (c.undergo share).client := by
  cases share with
  | write line =>
    simp only [undergo, writeLine]
    split <;> exact ⟨rfl, rfl, rfl⟩
  | flush outcomes =>
    simp only [undergo]
    split <;> exact ⟨rfl, rfl, rfl⟩

theorem fate_sameInput (c : Client) (shares : List Share) : SameInput c (c.fate shares).client := by
  induction shares generalizing c with
  | nil => exact ⟨rfl, rfl, rfl⟩
  | cons share later ih => exact (c.undergo_sameInput share).trans (ih _)

theorem undergo_reports (c : Client) (share : Share) : (c.undergo share).reports =
    if c.closed = false ∧ (c.undergo share).client.closed = true then 1 else 0 := by
  cases h : c.closed with
  | true => rw [undergo_of_closed h]; rfl
  | false => cases share <;> simp [undergo, writeLine, h]

theorem fate_reports (c : Client) (shares : List Share) : (c.fate shares).reports =
    if c.closed = false ∧ (c.fate shares).client.closed = true then 1 else 0 := by
  induction shares generalizing c with
  | nil => cases h : c.closed <;> simp [fate, h]
  | cons share later ih =>
    simp only [fate, ih, undergo_reports]
    cases h : c.closed with
    | true => simp [undergo_of_closed h, h]
    | false =>
      cases hnext : (c.undergo share).client.closed with
      | true => simp [fate_of_closed hnext, hnext]
      | false => simp

theorem undergo_bytes (c : Client) (share : Share) :
    (c.undergo share).sent ++ (c.undergo share).client.outbound =
      c.outbound ++ bytesOf (if c.closed then [] else share.line?.toList) := by
  cases h : c.closed with
  | true => simp [undergo_of_closed h, bytesOf]
  | false =>
    cases share with
    | write line => simp [undergo, writeLine, h, Share.line?, bytesOf]
    | flush outcomes =>
      have hdrain := drain_spec c.outbound outcomes
      simpa [undergo, h, Share.line?, bytesOf] using hdrain

end Client

/-! ## All clients -/

/-- What is done to send lines: one is written for a client, or all clients are flushed. -/
inductive Sending where
  | write (service : Service) (line : String)
  | flush (writes : Service → List WriteOutcome)

/-- What of it is done to one client. -/
def Sending.shares (service : Service) : Sending → List Share
  | write other line => if other = service then [.write line] else []
  | flush writes => [.flush (writes service)]

/-- The line that it writes for a client. -/
def Sending.linesTo (service : Service) : Sending → List String
  | write other line => if other = service then [line] else []
  | flush _ => []

theorem Sending.filterMap_shares (service : Service) (sending : Sending) :
    (sending.shares service).filterMap Share.line? = sending.linesTo service := by
  cases sending with
  | write other line =>
    rw [shares, linesTo]
    split <;> rfl
  | flush writes => rfl

namespace Clients

/-- The clients after it, those that failed in it, and what happened. -/
def send (cs : Clients) : Sending → Clients × List Service × Trace
  | .write service line => (cs.writeLine service line, [], [])
  | .flush writes => cs.flush writes

def sendAll (cs : Clients) : List Sending → Clients × List Service × Trace
  | [] => (cs, [], [])
  | sending :: later =>
    let (next, failed, trace) := cs.send sending
    let (last, more, rest) := next.sendAll later
    (last, failed ++ more, trace ++ rest)

/-- The lines that are written for a client while it is connected. -/
def linesFor (cs : Clients) (service : Service) : List Sending → List String
  | [] => []
  | sending :: later =>
    (if cs.isConnected service then sending.linesTo service else []) ++
      (cs.send sending).1.linesFor service later

theorem sendAll_append (cs : Clients) (early late : List Sending) :
    cs.sendAll (early ++ late) =
      (((cs.sendAll early).1.sendAll late).1,
        (cs.sendAll early).2.1 ++ ((cs.sendAll early).1.sendAll late).2.1,
        (cs.sendAll early).2.2 ++ ((cs.sendAll early).1.sendAll late).2.2) := by
  induction early generalizing cs with
  | nil => rfl
  | cons sending later ih => simp only [List.cons_append, sendAll, ih, List.append_assoc]

theorem visit_failed_nodup (cs : Clients) (operation : Service → Client → Progress) :
    (cs.visit operation).2.1.Nodup :=
  (cs.entries.mapEntries operation).keys_nodup.sublist (List.filter_sublist.map _)

variable {cs : Clients} {service : Service} {c : Client}

theorem flushClient_undergo (service : Service) (outcomes : List WriteOutcome) (c : Client) :
    let p := flushClient outcomes service c
    let f := c.undergo (.flush outcomes)
    p.client = f.client ∧ f.reports = (if p.failed = true then 1 else 0) ∧
      ∀ other, p.trace.traffic other = if other = service then { sent := f.sent } else {} := by
  have htraffic := fun other => Trace.traffic_sent service (Client.drain c.outbound outcomes).sent other
  unfold flushClient Client.undergo
  cases hclosed : c.closed with
  | true => simp
  | false =>
    cases hfailure : (Client.drain c.outbound outcomes).failure with
    | none => exact ⟨by simp [hfailure], by simp [hfailure], by simpa [hfailure] using htraffic⟩
    | some cause =>
      refine ⟨by simp [hfailure], by simp [hfailure], fun other => ?_⟩
      simp only [hfailure, Bool.false_eq_true, if_false, Trace.traffic_append, htraffic]
      exact Traffic.append_empty _

theorem flush_traffic (cs : Clients) (service : Service) (writes : Service → List WriteOutcome) :
    (cs.flush writes).2.2.traffic service =
      ((cs.client? service).map fun c =>
        ({ sent := (c.undergo (.flush (writes service))).sent } : Traffic)).getD {} := by
  have hother := fun other d (hne : other ≠ service) =>
    ((flushClient_undergo other (writes other) d).2.2 service).trans (if_neg (Ne.symm hne))
  refine (visit_traffic cs service _ hother).trans ?_
  cases cs.client? service with
  | none => rfl
  | some c => exact ((flushClient_undergo service (writes service) c).2.2 service).trans (if_pos rfl)

/-- A client after lines have been sent, what has been sent to it, and how often it has been reported, are
as its own fate says. -/
structure Fares (after : Clients) (failed : List Service) (trace : Trace) (service : Service) (f : Fate) :
    Prop where
  client : after.client? service = some f.client
  sent : trace.sentTo service = f.sent
  reports : failed.count service = f.reports

theorem send_fate (hc : cs.client? service = some c) (sending : Sending) :
    Fares (cs.send sending).1 (cs.send sending).2.1 (cs.send sending).2.2 service
      (c.fate (sending.shares service)) := by
  cases sending with
  | write other line =>
    have hclient := writeLine_client? cs other service line
    rw [hc] at hclient
    by_cases hother : other = service
    · rw [if_pos hother.symm] at hclient
      rw [Sending.shares, if_pos hother]
      exact ⟨hclient, rfl, rfl⟩
    · rw [if_neg (Ne.symm hother)] at hclient
      rw [Sending.shares, if_neg hother]
      exact ⟨hclient, rfl, rfl⟩
  | flush writes =>
    obtain ⟨hclient, hreports, -⟩ := flushClient_undergo service (writes service) c
    have htraffic := cs.flush_traffic service writes
    rw [hc, Option.map_some, Option.getD_some] at htraffic
    simp only [Sending.shares, Client.fate, List.append_nil, Nat.add_zero]
    refine ⟨?_, congrArg Traffic.sent htraffic, ?_⟩
    · simp only [send, flush, visit_client?, hc, Option.map_some, hclient]
    · simp only [send, flush, (visit_failed_nodup cs _).count, hreports, mem_visit_failed, hc,
        Option.some.injEq, exists_eq_left']

/-- A client fares among others as it does alone. -/
theorem sendAll_fate (hc : cs.client? service = some c) (sendings : List Sending) :
    Fares (cs.sendAll sendings).1 (cs.sendAll sendings).2.1 (cs.sendAll sendings).2.2 service
      (c.fate (sendings.flatMap (Sending.shares service))) := by
  induction sendings generalizing cs c with
  | nil => exact ⟨hc, rfl, rfl⟩
  | cons sending later ih =>
    have hnow := send_fate hc sending
    have hlater := ih hnow.client
    rw [List.flatMap_cons, Client.fate_append]
    refine ⟨hlater.client, ?_, ?_⟩
    · rw [sendAll, Trace.sentTo_append, hnow.sent, hlater.sent]
    · rw [sendAll, List.count_append, hnow.reports, hlater.reports]

theorem send_bytes (hc : cs.client? service = some c) (sending : Sending) :
    let f := c.fate (sending.shares service)
    f.sent ++ f.client.outbound =
      c.outbound ++ bytesOf (if cs.isConnected service then sending.linesTo service else []) := by
  have hconnected : cs.isConnected service = !c.closed := by
    rw [Bool.eq_iff_iff, isConnected_iff, hc]
    simp
  have hshare : sending.shares service = [] ∨ ∃ share, sending.shares service = [share] := by
    cases sending with
    | write other line =>
      rw [Sending.shares]
      split
      · exact .inr ⟨_, rfl⟩
      · exact .inl rfl
    | flush writes => exact .inr ⟨_, rfl⟩
  rw [hconnected, ← Sending.filterMap_shares]
  rcases hshare with hshare | ⟨share, hshare⟩
  · simp [hshare, Client.fate, bytesOf]
  · have hbytes := c.undergo_bytes share
    cases hclosed : c.closed <;> cases hline : share.line? <;>
      simpa [hshare, Client.fate, hclosed, hline] using hbytes

theorem sendAll_bytes (hc : cs.client? service = some c) (sendings : List Sending) :
    let f := c.fate (sendings.flatMap (Sending.shares service))
    f.sent ++ f.client.outbound = c.outbound ++ bytesOf (cs.linesFor service sendings) := by
  induction sendings generalizing cs c with
  | nil => exact (List.append_nil _).symm
  | cons sending later ih =>
    have hnow := send_bytes hc sending
    have hlater := ih (send_fate hc sending).client
    rw [List.flatMap_cons, Client.fate_append]
    simp only [linesFor, bytesOf, List.flatMap_append] at hnow hlater ⊢
    rw [List.append_assoc, hlater, ← List.append_assoc, hnow, List.append_assoc]

theorem flush_reports_iff (hc : cs.client? service = some c) (writes : Service → List WriteOutcome) :
    service ∈ (cs.flush writes).2.1 ↔
      c.closed = false ∧ Breaks c.outbound.length (writes service) := by
  have hreports := (send_fate hc (.flush writes)).reports
  simp only [send, Sending.shares, Client.fate, Client.undergo, Nat.add_zero] at hreports
  rw [← List.count_pos_iff, hreports, ← Client.drain_failure_iff]
  cases c.closed with
  | true => simp
  | false => cases (Client.drain c.outbound (writes service)).failure <;> simp

theorem closed_of_reported (hc : cs.client? service = some c) {writes : Service → List WriteOutcome}
    (h : service ∈ (cs.flush writes).2.1) :
    ∃ lost, (cs.flush writes).1.client? service = some lost ∧ lost.closed = true := by
  have hfate := send_fate hc (.flush writes)
  refine ⟨_, hfate.client, ?_⟩
  have hpos := List.count_pos_iff.mpr h
  rw [show (cs.flush writes).2.1.count service = _ from hfate.reports, Client.fate_reports] at hpos
  split at hpos
  · rename_i hlost
    exact hlost.2
  · exact absurd hpos (Nat.lt_irrefl 0)

/-! ## Runs -/

/-- A client before and after lines have been sent. -/
structure Sent (cs : Clients) (sendings : List Sending) (service : Service) (c c' : Client) : Prop where
  client : (cs.sendAll sendings).1.client? service = some c'
  /-- The bytes that its socket has taken, and behind them those that wait, are the lines that were written
  for it while it was connected, in order, each with a line feed behind it. -/
  order : (cs.sendAll sendings).2.2.sentTo service ++ c'.outbound = c.outbound ++
    (cs.linesFor service sendings).flatMap fun line => Utf8.encode line ++ [lineFeed]
  /-- A flush reports it if one of its writes fails or takes nothing. -/
  reported : ∀ early writes late, sendings = early ++ .flush writes :: late →
    ∃ before, (cs.sendAll early).1.client? service = some before ∧
      (service ∈ ((cs.sendAll early).1.flush writes).2.1 ↔
        before.closed = false ∧ Breaks before.outbound.length (writes service))
  /-- It is reported once in all, if its connection is lost. -/
  once : (cs.sendAll sendings).2.1.count service =
    if c.closed = false ∧ c'.closed = true then 1 else 0
  /-- After that it stays as it is: nothing is sent to it, and lines for it are dropped. -/
  silent : ∀ early writes late, sendings = early ++ .flush writes :: late →
    service ∈ ((cs.sendAll early).1.flush writes).2.1 →
      let after := ((cs.sendAll early).1.flush writes).1
      after.client? service = some c' ∧ c'.closed = true ∧ (after.sendAll late).2.2.sentTo service = []
  /-- Its input is not touched. -/
  input : c.SameInput c'
  /-- Other clients, their lines and their sockets make no difference to it. -/
  alone : ∀ (others : Clients) (sendings' : List Sending), others.client? service = some c →
    sendings'.flatMap (Sending.shares service) = sendings.flatMap (Sending.shares service) →
      (others.sendAll sendings').1.client? service = some c' ∧
        (others.sendAll sendings').2.2.sentTo service = (cs.sendAll sendings).2.2.sentTo service ∧
          (others.sendAll sendings').2.1.count service = (cs.sendAll sendings).2.1.count service

/-- Whatever sockets do, and whatever is written meanwhile, each client gets its own lines in order. -/
theorem lines_sent_in_order (cs : Clients) (sendings : List Sending) (service : Service) (c : Client)
    (hc : cs.client? service = some c) : ∃ c', Sent cs sendings service c c' := by
  have hfate := sendAll_fate hc sendings
  refine ⟨_, hfate.client, ?_, ?_, ?_, ?_, c.fate_sameInput _, ?_⟩
  · rw [hfate.sent]
    exact sendAll_bytes hc sendings
  · intro early writes late heq
    have hbefore := (sendAll_fate hc early).client
    exact ⟨_, hbefore, flush_reports_iff hbefore writes⟩
  · rw [hfate.reports]
    exact c.fate_reports _
  · rintro early writes late rfl hreported after
    obtain ⟨lost, hlost, hclosed⟩ := closed_of_reported (sendAll_fate hc early).client hreported
    have hlate := sendAll_fate hlost late
    rw [Client.fate_of_closed hclosed] at hlate
    have hlast := hfate.client
    rw [sendAll_append] at hlast
    obtain rfl := Option.some.inj (hlate.client.symm.trans hlast)
    exact ⟨hlost, hclosed, hlate.sent⟩
  · intro others sendings' hc' hshares
    have hfate' := sendAll_fate hc' sendings'
    rw [hshares] at hfate'
    exact ⟨hfate'.client, hfate'.sent.trans hfate.sent.symm, hfate'.reports.trans hfate.reports.symm⟩

theorem sending_broken_off :
    let cs := ({} : Clients).register.2.1.register.2.1
    let sendings : List Sending :=
      [.write ⟨1⟩ "ab", .write ⟨2⟩ "x",
        .flush fun s => if s = ⟨1⟩ then [.interrupted, .accepted 1] else [.failed .brokenPipe],
        .write ⟨1⟩ "c", .write ⟨2⟩ "y", .flush fun _ => [.accepted 2, .accepted 0],
        .write ⟨1⟩ "d", .flush fun _ => [.accepted 9]]
    cs.client? ⟨1⟩ = some {} ∧ ∃ c', Sent cs sendings ⟨1⟩ {} c' ∧ c'.closed = true ∧
      (cs.sendAll sendings).2.2.sentTo ⟨1⟩ = bytesOf ["ab"] ∧ c'.outbound = bytesOf ["c"] := by
  intro cs sendings
  have hlast : (cs.sendAll sendings).1.client? ⟨1⟩ =
      some { outbound := bytesOf ["c"], closed := true } := by decide +kernel
  obtain ⟨c', h⟩ := lines_sent_in_order cs sendings ⟨1⟩ {} rfl
  obtain rfl := Option.some.inj (h.client.symm.trans hlast)
  exact ⟨rfl, _, h, rfl, by decide +kernel, rfl⟩

end Clients

end Channel

end RouteServer
