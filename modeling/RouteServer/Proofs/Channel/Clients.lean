import RouteServer.Channel.Clients
import RouteServer.Proofs.Channel.Framing
import RouteServer.Proofs.Keyed
import RouteServer.Proofs.Trace

/-! # What operations on the clients do to each of them -/

namespace RouteServer

instance : Std.LawfulEqOrd Service where
  eq_of_compare {x y} h := by
    cases x
    cases y
    exact congrArg Service.mk (Nat.compare_eq_eq.mp h)

namespace Channel.Clients

variable (cs : Clients) (service other : Service)

/-- The client with a number. -/
def client? : Option Client := cs.entries.get? service

variable {cs service} in
theorem isConnected_iff : cs.isConnected service = true ↔
    ∃ c, cs.client? service = some c ∧ c.closed = false := by
  rw [isConnected, client?]
  cases cs.entries.get? service <;> simp

/-! ## Joining and leaving -/

theorem register_client? : cs.register.2.1.client? other =
    if other = ⟨cs.lastId + 1⟩ then some {} else cs.client? other := Keyed.get?_insert ..

theorem register_quiet : Trace.Quiet cs.register.2.2 := by
  simp [register, Trace.Quiet, note]

theorem remove_client? : (cs.remove service).1.client? other =
    if other = service then none else cs.client? other := by
  unfold remove
  split
  · exact Keyed.get?_erase ..
  · rename_i habsent
    split
    · rename_i heq
      subst heq
      simpa [Keyed.contains, client?] using habsent
    · rfl

theorem remove_lastId : (cs.remove service).1.lastId = cs.lastId := by
  unfold remove
  split <;> rfl

theorem remove_quiet : Trace.Quiet (cs.remove service).2 := by
  unfold remove
  split <;> simp [Trace.Quiet, note]

/-! ## All clients at once -/

variable (operation : Service → Client → Progress)

theorem visit_client? : (cs.visit operation).1.client? other =
    (cs.client? other).map fun c => (operation other c).client := by
  simp [visit, client?, Function.comp_def]

theorem visit_trace : (cs.visit operation).2.2 =
    cs.entries.toList.flatMap fun e => (operation e.1 e.2).trace := by
  simp [visit, Keyed.mapEntries, List.flatMap_map]

theorem visit_traffic (h : ∀ service c, service ≠ other →
    (operation service c).trace.traffic other = {}) :
    (cs.visit operation).2.2.traffic other =
      ((cs.client? other).map fun c => (operation other c).trace.traffic other).getD {} := by
  -- Each client has one entry, and the entries of the others let nothing pass to this one.
  have hwritten := cs.entries.flatMap_toList_of_single other
    (fun e => (operation e.1 e.2).trace.writtenTo other)
    fun e he => congrArg Traffic.written (h e.1 e.2 he)
  have hreceived := cs.entries.flatMap_toList_of_single other
    (fun e => (operation e.1 e.2).trace.receivedFrom other)
    fun e he => congrArg Traffic.received (h e.1 e.2 he)
  have hsent := cs.entries.flatMap_toList_of_single other
    (fun e => (operation e.1 e.2).trace.sentTo other)
    fun e he => congrArg Traffic.sent (h e.1 e.2 he)
  rw [visit_trace, Trace.traffic, Trace.writtenTo_flatMap, Trace.receivedFrom_flatMap,
    Trace.sentTo_flatMap, hwritten, hreceived, hsent, client?]
  cases cs.entries.get? other <;> rfl

theorem visit_writtenTo (h : ∀ service c, (operation service c).trace.writtenTo other = []) :
    (cs.visit operation).2.2.writtenTo other = [] := by
  rw [visit_trace, Trace.writtenTo_flatMap, List.flatMap_eq_nil_iff]
  exact fun e _ => h e.1 e.2

/-! ## Commands -/

theorem nextLine_eq_some {line : String} {cs' : Clients}
    (h : cs.nextLine service = (some line, cs')) :
    ∃ c rest, cs.client? service = some c ∧ c.closed = false ∧ c.lines = line :: rest ∧
      cs'.lastId = cs.lastId ∧
        ∀ other, cs'.client? other =
          if other = service then some { c with lines := rest } else cs.client? other := by
  unfold nextLine at h
  cases hget : cs.entries.get? service with
  | none => simp [hget] at h
  | some c =>
    cases hclosed : c.closed with
    | true => simp [hget, hclosed] at h
    | false =>
      cases hlines : c.lines with
      | nil => simp [hget, hclosed, hlines] at h
      | cons first rest =>
        simp only [hget, hclosed, hlines, Bool.false_eq_true, if_false, Prod.mk.injEq,
          Option.some.injEq] at h
        obtain ⟨rfl, rfl⟩ := h
        refine ⟨c, rest, hget, hclosed, hlines, rfl, fun other => ?_⟩
        rw [client?, client?, Keyed.get?_modify]
        split
        · rename_i heq
          rw [heq, hget]
          rfl
        · rfl

/-! ## Writing -/

theorem writeLine_client? (line : String) : (cs.writeLine service line).client? other =
    if other = service then (cs.client? other).map (·.writeLine line) else cs.client? other :=
  Keyed.get?_modify ..

theorem deliver_client? (trace : Trace) : (cs.deliver trace).client? other =
    (cs.client? other).map fun c =>
      if c.closed then c else { c with outbound := c.outbound ++ encode (trace.writtenTo other) } := by
  rw [Trace.writtenTo_eq, deliver]
  induction trace.written generalizing cs with
  | nil => cases h : cs.client? other <;> simp [encode, h]
  | cons w rest ih =>
    rw [List.foldl_cons, ih, writeLine_client?, List.filterMap_cons]
    by_cases hw : other = w.1
    · rw [if_pos hw, if_pos hw.symm]
      cases cs.client? other with
      | none => rfl
      | some c => cases hclosed : c.closed <;> simp [Client.writeLine, hclosed, encode]
    · rw [if_neg hw, if_neg (Ne.symm hw)]

variable {cs other} in
theorem deliver_client?_of_open {c : Client} (trace : Trace) (hc : cs.client? other = some c)
    (hopen : c.closed = false) : (cs.deliver trace).client? other =
      some { c with outbound := c.outbound ++ encode (trace.writtenTo other) } := by
  rw [deliver_client?, hc, Option.map_some, hopen, if_neg Bool.false_ne_true]

variable {other} in
theorem deliver_client?_of_nil {trace : Trace} (h : trace.writtenTo other = []) :
    (cs.deliver trace).client? other = cs.client? other := by
  rw [deliver_client?, h]
  cases cs.client? other <;> simp

theorem deliver_lastId (trace : Trace) : (cs.deliver trace).lastId = cs.lastId := by
  rw [deliver]
  induction trace.written generalizing cs with
  | nil => rfl
  | cons w rest ih => exact ih _

/-- The commands of a client that wait. -/
def lines? : Option (List String) := (cs.client? service).map (·.lines)

theorem lines?_deliver (trace : Trace) : (cs.deliver trace).lines? service = cs.lines? service := by
  rw [lines?, deliver_client?, lines?, Option.map_map]
  congr 1
  funext c
  simp only [Function.comp_apply]
  split <;> rfl

/-! ## One client -/

theorem readClient_spec (outcomes : List ReadOutcome) (c : Client) :
    ∃ (pieces : List (List UInt8)) (inputEnded closed : Bool), (c.closed = true → closed = true) ∧
      (readClient outcomes service c).client =
          { pieces.foldl Client.feed c with inputEnded, closed } ∧
        ∀ other, (readClient outcomes service c).trace.traffic other =
          if other = service then { received := pieces.flatten } else {} := by
  obtain ⟨pieces, hclient, hreceived⟩ := Client.fill_spec Client.readBudget c outcomes
  unfold readClient
  split
  · exact ⟨[], c.inputEnded, c.closed, id, rfl, fun other => by simp⟩
  · have htraffic := fun other => Trace.traffic_received service
      (Client.fill Client.readBudget c outcomes).received other
    have hkept : c.closed = true → (pieces.foldl Client.feed c).closed = true :=
      (Client.foldl_feed_closed c pieces).trans
    simp only [hclient, hreceived] at htraffic ⊢
    split
    · exact ⟨pieces, _, _, hkept, rfl, htraffic⟩
    · refine ⟨pieces, true, _, hkept, rfl, fun other => ?_⟩
      rw [Trace.traffic_append, htraffic]
      exact Traffic.append_empty _
    · refine ⟨pieces, _, true, fun _ => rfl, rfl, fun other => ?_⟩
      rw [Trace.traffic_append, htraffic]
      exact Traffic.append_empty _
    · refine ⟨pieces, _, true, fun _ => rfl, rfl, fun other => ?_⟩
      rw [Trace.traffic_append, htraffic]
      exact Traffic.append_empty _

theorem readClient_closed {outcomes : List ReadOutcome} {c : Client}
    (h : (readClient outcomes service c).failed = false) :
    (readClient outcomes service c).client.closed = c.closed := by
  obtain ⟨pieces, hclient, -⟩ := Client.fill_spec Client.readBudget c outcomes
  have hfed : (Client.fill Client.readBudget c outcomes).client.closed = c.closed := by
    rw [hclient, Client.foldl_feed_closed]
  revert h
  unfold readClient
  split
  · exact fun _ => rfl
  · dsimp only
    cases (Client.fill Client.readBudget c outcomes).inbound with
    | waiting => exact fun _ => hfed
    | ended => exact fun _ => hfed
    | overlong => exact fun h => nomatch h
    | failed cause => exact fun h => nomatch h

theorem flushClient_spec (outcomes : List WriteOutcome) (c : Client) :
    ∃ (sent outbound : List UInt8) (closed : Bool), c.outbound = sent ++ outbound ∧
      (c.closed = true → closed = true) ∧
        (flushClient outcomes service c).client = { c with outbound, closed } ∧
          ∀ other, (flushClient outcomes service c).trace.traffic other =
            if other = service then { sent } else {} := by
  have hdrain := Client.drain_spec c.outbound outcomes
  unfold flushClient
  split
  · exact ⟨[], c.outbound, c.closed, rfl, id, rfl, fun other => by simp⟩
  · rename_i hopen
    have htraffic := fun other => Trace.traffic_sent service (Client.drain c.outbound outcomes).sent other
    cases hfailure : (Client.drain c.outbound outcomes).failure with
    | none =>
      exact ⟨_, _, c.closed, hdrain.symm, id, by simp only [hfailure], fun other => by
        simp only [hfailure]; exact htraffic other⟩
    | some cause =>
      refine ⟨_, _, true, hdrain.symm, fun _ => rfl, by simp only [hfailure], fun other => ?_⟩
      simp only [hfailure, Trace.traffic_append, htraffic]
      exact Traffic.append_empty _

theorem flushClient_closed {outcomes : List WriteOutcome} {c : Client}
    (h : (flushClient outcomes service c).failed = false) :
    (flushClient outcomes service c).client.closed = c.closed := by
  revert h
  unfold flushClient
  split
  · exact fun _ => rfl
  · dsimp only
    cases (Client.drain c.outbound outcomes).failure with
    | none => exact fun _ => rfl
    | some cause => exact fun h => nomatch h

end Channel.Clients

end RouteServer
