import RouteServer.Proofs.Channel.Clients

/-! # Reading the input of a client, piece by piece

A client whose lines are short enough never fails, and its commands are those on the lines that it has
completed: neither the pieces in which its bytes are read nor the calls that read them matter.
-/

namespace RouteServer

namespace Channel

theorem lineFeed_notMem_remainder (input : List UInt8) : lineFeed ∉ remainder input := by
  have hne := List.splitOn_ne_nil lineFeed input
  rw [remainder, List.getLastD_eq_getLast?, List.getLast?_eq_some_getLast hne]
  exact Lists.notMem_of_mem_splitOn (List.getLast_mem hne)

/-- Input whose lines are no longer than a client's may be, the one that has not ended included. -/
def ShortLines (input : List UInt8) : Prop :=
  ∀ line ∈ input.splitOn lineFeed, line.length ≤ Client.maxLine

theorem ShortLines.remainder_length {a b : List UInt8} (h : ShortLines (a ++ b)) :
    (remainder a).length ≤ Client.maxLine := by
  obtain ⟨more, pieces, hsplit⟩ := Lists.exists_splitOn_append (lineFeed_notMem_remainder a) b
  have hline := h (remainder a ++ more) <| by
    rw [Lists.splitOn_append]
    exact List.mem_append_right _ (hsplit ▸ List.mem_cons_self)
  rw [List.length_append] at hline
  omega

theorem ShortLines.of_append {a b : List UInt8} (h : ShortLines (a ++ b)) : ShortLines a := by
  intro line hline
  rw [← List.dropLast_concat_getLast (List.splitOn_ne_nil lineFeed a), List.mem_append] at hline
  rcases hline with hline | hline
  · exact h line (Lists.splitOn_append a b lineFeed ▸ List.mem_append_left _ hline)
  · obtain rfl := List.mem_singleton.mp hline
    have hlast : (a.splitOn lineFeed).getLast (List.splitOn_ne_nil lineFeed a) = remainder a := by
      rw [remainder, List.getLastD_eq_getLast?, List.getLast?_eq_some_getLast, Option.getD_some]
    rw [hlast]
    exact h.remainder_length

theorem commands_eq (input : List UInt8) : commands input =
    ((input.splitOn lineFeed).dropLast.map fun line => Text.trim (Utf8.decodeLossy line)).filter
      (· ≠ "") := by
  rw [commands]
  induction (input.splitOn lineFeed).dropLast with
  | nil => rfl
  | cons line rest ih =>
    rw [List.map_cons, List.filterMap_cons, ih]
    by_cases h : Text.trim (Utf8.decodeLossy line) = ""
    · rw [List.filter_cons_of_neg (by simpa using h), Client.command?, if_pos h]
    · rw [List.filter_cons_of_pos (by simpa using h), Client.command?, if_neg h]

/-! ## One call -/

/-- What the reads of a call give that may take data so many times: none of them fails, and they go on
until the socket has nothing more, the input ends or the call has taken data as often as it may. Where the
list ends before, the socket would block. -/
inductive Call : Nat → List ReadOutcome → Prop
  | silent (budget : Nat) : Call budget []
  | blocked (budget : Nat) : Call (budget + 1) [.wouldBlock]
  | ended (budget : Nat) : Call (budget + 1) [.ended]
  | interrupted (budget : Nat) (rest : List ReadOutcome) (hrest : Call (budget + 1) rest) :
    Call (budget + 1) (.interrupted :: rest)
  | data (budget : Nat) (bytes : List UInt8) (rest : List ReadOutcome) (hrest : Call budget rest) :
    Call (budget + 1) (.data bytes :: rest)

/-- The bytes that reads bring, up to the end of the input. -/
def arrived : List ReadOutcome → List UInt8
  | [] => []
  | .ended :: _ => []
  | .data bytes :: rest => bytes ++ arrived rest
  | _ :: rest => arrived rest

theorem arrived_append_of_ended {a : List ReadOutcome} (h : .ended ∈ a) (b : List ReadOutcome) :
    arrived (a ++ b) = arrived a := by
  induction a with
  | nil => cases h
  | cons outcome rest ih =>
    cases outcome <;> simp_all [arrived]

theorem arrived_append_of_not_ended {a : List ReadOutcome} (h : .ended ∉ a) (b : List ReadOutcome) :
    arrived (a ++ b) = arrived a ++ arrived b := by
  induction a with
  | nil => rfl
  | cons outcome rest ih =>
    cases outcome <;> simp_all [arrived]

namespace Client

variable {c : Client} {input : List UInt8} {taken : List String}

theorem fill_of_call (h : c.Framed input taken) {budget : Nat} {outcomes : List ReadOutcome}
    (hcall : Call budget outcomes) (hshort : ShortLines (input ++ arrived outcomes)) :
    let r := fill budget c outcomes
    r.client.Framed (input ++ arrived outcomes) taken ∧
      (r.client.closed = c.closed ∧ r.client.inputEnded = c.inputEnded) ∧
        r.inbound = if .ended ∈ outcomes then .ended else .waiting := by
  induction hcall generalizing c input with
  | silent budget =>
    cases budget <;> simpa [fill, arrived] using h
  | blocked budget => simpa [fill, arrived] using h
  | ended budget => simpa [fill, arrived] using h
  | interrupted budget rest hrest ih => simpa [fill, arrived] using ih h hshort
  | data budget bytes rest hrest ih =>
    rw [arrived, ← List.append_assoc] at hshort ⊢
    have hfed := h.feed bytes
    -- What is not complete begins a line that is short enough.
    have hfits : ¬ maxLine < (c.feed bytes).unfinished.length := by
      rw [hfed.unfinished]
      exact Nat.not_lt.mpr hshort.remainder_length
    obtain ⟨hframed, hkept, hinbound⟩ := ih hfed hshort
    simp only [fill, if_neg hfits]
    exact ⟨hframed, hkept, by simpa using hinbound⟩

end Client

namespace Clients

/-- A client that has sent `input`, and whose commands are in the queue but for those that are taken. -/
structure Heard (c : Client) (input : List UInt8) (inputEnded : Bool) (taken : List String) : Prop where
  framed : c.Framed input taken
  inputEnded : c.inputEnded = inputEnded
  connected : c.closed = false

variable {c : Client} {input : List UInt8} {taken : List String} (service : Service)

theorem Heard.readClient_of_fill (h : Heard c input false taken) {outcomes : List ReadOutcome}
    {more : List UInt8} (hframed : (Client.fill Client.readBudget c outcomes).client.Framed more taken)
    (hkept : (Client.fill Client.readBudget c outcomes).client.closed = c.closed ∧
      (Client.fill Client.readBudget c outcomes).client.inputEnded = c.inputEnded)
    (hinbound : (Client.fill Client.readBudget c outcomes).inbound =
      if .ended ∈ outcomes then .ended else .waiting) :
    (readClient outcomes service c).failed = false ∧
      Heard (readClient outcomes service c).client more (decide (.ended ∈ outcomes)) taken := by
  obtain ⟨hclosed, hended⟩ := hkept
  simp only [Clients.readClient, h.connected, h.inputEnded, Bool.or_self, Bool.false_eq_true, if_false,
    hinbound]
  by_cases hmem : .ended ∈ outcomes
  · simp only [hmem, if_true, decide_true, true_and]
    exact ⟨⟨hframed.lines, hframed.unfinished⟩, rfl, hclosed.trans h.connected⟩
  · simp only [hmem, if_false, decide_false, true_and]
    exact ⟨hframed, hended.trans h.inputEnded, hclosed.trans h.connected⟩

theorem Heard.readClient (h : Heard c input false taken) {outcomes : List ReadOutcome}
    (hcall : Call Client.readBudget outcomes) (hshort : ShortLines (input ++ arrived outcomes)) :
    (readClient outcomes service c).failed = false ∧
      Heard (readClient outcomes service c).client (input ++ arrived outcomes)
        (decide (.ended ∈ outcomes)) taken := by
  obtain ⟨hframed, hkept, hinbound⟩ := Client.fill_of_call h.framed hcall hshort
  exact h.readClient_of_fill service hframed hkept hinbound

theorem Heard.readClient_of_ended (h : Heard c input true taken) (outcomes : List ReadOutcome) :
    Clients.readClient outcomes service c = { client := c } := by
  simp [Clients.readClient, h.inputEnded]

/-! ## Many calls -/

/-- What is done with the clients: all are read, or one command of a client is taken. -/
inductive Use where
  | read (outcomes : Service → List ReadOutcome)
  | take (service : Service)

/-- The clients after a use, those that failed in it, and the command that was taken. -/
def use (cs : Clients) : Use → Clients × List Service × List (Service × String)
  | .read outcomes =>
    let (next, failed, _) := cs.readAvailable outcomes
    (next, failed, [])
  | .take service =>
    let (line, next) := cs.nextLine service
    (next, [], line.toList.map (service, ·))

def useAll (cs : Clients) : List Use → Clients × List Service × List (Service × String)
  | [] => (cs, [], [])
  | u :: later =>
    let (next, failed, taken) := cs.use u
    let (last, more, rest) := next.useAll later
    (last, failed ++ more, taken ++ rest)

/-- What the reads of a client give in several uses. -/
def Use.outcomes (service : Service) : Use → List ReadOutcome
  | .read outcomes => outcomes service
  | .take _ => []

/-- The commands that were taken from a client. -/
def takenFrom (service : Service) (taken : List (Service × String)) : List String :=
  taken.filterMap fun (s, line) => if s = service then some line else none

variable (cs : Clients) (other : Service)

theorem nextLine_client? : (cs.nextLine service).2.client? other = (cs.client? other).map fun c =>
    if other = service ∧ c.closed = false then { c with lines := c.lines.tail } else c := by
  unfold nextLine
  by_cases hother : other = service
  · subst hother
    cases hget : cs.entries.get? other with
    | none => simp [client?, hget]
    | some c =>
      rcases c with ⟨unfinished, _ | ⟨line, rest⟩, outbound, inputEnded, _ | _⟩ <;>
        simp [client?, hget, Keyed.get?_modify]
  · simp only [hother, false_and, if_false, Option.map_id']
    split
    · rfl
    · split
      · rfl
      · split
        · rfl
        · rw [client?, Keyed.get?_modify, if_neg hother, client?]

theorem nextLine_line : (cs.nextLine service).1 =
    (cs.client? service).bind fun c => if c.closed then none else c.lines.head? := by
  unfold nextLine
  rw [client?]
  cases cs.entries.get? service with
  | none => rfl
  | some c =>
    cases hclosed : c.closed <;> cases hlines : c.lines <;> simp [hclosed, hlines]

variable {cs other} in
theorem mem_visit_failed {operation : Service → Client → Progress} :
    other ∈ (cs.visit operation).2.1 ↔
      ∃ c, cs.client? other = some c ∧ (operation other c).failed = true := by
  simp only [visit, Keyed.mem_map_filter, Keyed.get?_mapEntries, Option.map_eq_some_iff]
  constructor
  · rintro ⟨_, ⟨c, hc, rfl⟩, hfailed⟩
    exact ⟨c, hc, hfailed⟩
  · rintro ⟨c, hc, hfailed⟩
    exact ⟨_, ⟨c, hc, rfl⟩, hfailed⟩

/-- A client by its number, with what it has sent and which of its commands are taken. -/
def Hears (cs : Clients) (service : Service) (input : List UInt8) (inputEnded : Bool)
    (taken : List String) : Prop :=
  ∃ c, cs.client? service = some c ∧ Heard c input inputEnded taken

variable {cs : Clients} {service : Service} {inputEnded : Bool}

theorem hears_register (cs : Clients) : cs.register.2.1.Hears cs.register.1 [] false [] := by
  refine ⟨{}, ?_, ⟨rfl, rfl⟩, rfl, rfl⟩
  exact (register_client? ..).trans (if_pos rfl)

/-- What becomes of one client when all are read. -/
theorem hears_of_readClient (hc : cs.client? service = some c) {outcomes : Service → List ReadOutcome}
    (hread : (readClient (outcomes service) service c).failed = false ∧
      Heard (readClient (outcomes service) service c).client input inputEnded taken) :
    service ∉ (cs.readAvailable outcomes).2.1 ∧
      (cs.readAvailable outcomes).1.Hears service input inputEnded taken := by
  obtain ⟨hfailed, hheard⟩ := hread
  constructor
  · intro hmem
    obtain ⟨c', hc', hfailed'⟩ := mem_visit_failed.mp hmem
    obtain rfl := Option.some.inj (hc.symm.trans hc')
    rw [hfailed] at hfailed'
    cases hfailed'
  · refine ⟨_, ?_, hheard⟩
    rw [readAvailable, visit_client?, hc]
    rfl

theorem Hears.read (h : cs.Hears service input false taken) {outcomes : Service → List ReadOutcome}
    (hcall : Call Client.readBudget (outcomes service))
    (hshort : ShortLines (input ++ arrived (outcomes service))) :
    service ∉ (cs.readAvailable outcomes).2.1 ∧
      (cs.readAvailable outcomes).1.Hears service (input ++ arrived (outcomes service))
        (decide (.ended ∈ outcomes service)) taken := by
  obtain ⟨c, hc, hheard⟩ := h
  exact hears_of_readClient hc (hheard.readClient service hcall hshort)

theorem Hears.read_of_ended (h : cs.Hears service input true taken)
    (outcomes : Service → List ReadOutcome) : service ∉ (cs.readAvailable outcomes).2.1 ∧
      (cs.readAvailable outcomes).1.Hears service input true taken := by
  obtain ⟨c, hc, hheard⟩ := h
  refine hears_of_readClient hc ?_
  rw [hheard.readClient_of_ended service (outcomes service)]
  exact ⟨rfl, hheard⟩

theorem Hears.take (h : cs.Hears service input inputEnded taken) (other : Service) :
    (cs.nextLine other).2.Hears service input inputEnded
      (taken ++ takenFrom service ((cs.nextLine other).1.toList.map (other, ·))) := by
  obtain ⟨c, hc, hheard⟩ := h
  have hclient := nextLine_client? other cs service
  rw [hc, Option.map_some] at hclient
  by_cases hother : service = other
  · subst hother
    rw [if_pos ⟨rfl, hheard.connected⟩] at hclient
    have hline := nextLine_line service cs
    rw [hc, Option.bind_some, hheard.connected, if_neg Bool.false_ne_true] at hline
    refine ⟨_, hclient, ⟨?_, hheard.framed.unfinished⟩, hheard.inputEnded, hheard.connected⟩
    rw [← hheard.framed.lines, hline, List.append_assoc]
    cases c.lines <;> simp [takenFrom]
  · rw [if_neg fun hand => hother hand.1] at hclient
    refine ⟨c, hclient, ?_⟩
    cases (cs.nextLine other).1 <;> simpa [takenFrom, Ne.symm hother] using hheard

/-- The bytes that a client has been seen to send, if more reads give what they give. -/
def heardAfter (input : List UInt8) (inputEnded : Bool) (outcomes : List ReadOutcome) : List UInt8 :=
  if inputEnded then input else input ++ arrived outcomes

theorem heardAfter_append (input : List UInt8) (inputEnded : Bool) (a b : List ReadOutcome) :
    heardAfter input inputEnded (a ++ b) =
      heardAfter (heardAfter input inputEnded a) (inputEnded || decide (.ended ∈ a)) b := by
  cases inputEnded with
  | true => rfl
  | false =>
    by_cases hmem : .ended ∈ a
    · simp [heardAfter, hmem, arrived_append_of_ended]
    · simp [heardAfter, hmem, arrived_append_of_not_ended]

theorem shortLines_of_heardAfter {outcomes : List ReadOutcome}
    (h : ShortLines (heardAfter input inputEnded outcomes)) : ShortLines input := by
  cases inputEnded with
  | true => exact h
  | false => exact h.of_append

theorem Hears.use (h : cs.Hears service input inputEnded taken) (u : Use)
    (hcall : Call Client.readBudget (u.outcomes service))
    (hshort : ShortLines (heardAfter input inputEnded (u.outcomes service))) :
    service ∉ (cs.use u).2.1 ∧
      (cs.use u).1.Hears service (heardAfter input inputEnded (u.outcomes service))
        (inputEnded || decide (.ended ∈ u.outcomes service))
        (taken ++ takenFrom service (cs.use u).2.2) := by
  cases u with
  | read outcomes =>
    simp only [takenFrom, Clients.use, List.filterMap_nil, List.append_nil]
    cases inputEnded with
    | true => exact h.read_of_ended outcomes
    | false => exact h.read hcall hshort
  | take other =>
    have hnone : heardAfter input inputEnded ((Use.take other).outcomes service) = input := by
      cases inputEnded <;> simp [heardAfter, Use.outcomes, arrived]
    rw [hnone]
    refine ⟨List.not_mem_nil, ?_⟩
    simpa [Clients.use, Use.outcomes] using h.take other

theorem Hears.useAll (h : cs.Hears service input inputEnded taken) (uses : List Use)
    (hcalls : ∀ u ∈ uses, Call Client.readBudget (u.outcomes service))
    (hshort : ShortLines (heardAfter input inputEnded (uses.flatMap (Use.outcomes service)))) :
    service ∉ (cs.useAll uses).2.1 ∧ ∃ inputEnded',
      (cs.useAll uses).1.Hears service (heardAfter input inputEnded (uses.flatMap (Use.outcomes service)))
        inputEnded' (taken ++ takenFrom service (cs.useAll uses).2.2) := by
  induction uses generalizing cs input inputEnded taken with
  | nil =>
    refine ⟨List.not_mem_nil, inputEnded, ?_⟩
    simpa [Clients.useAll, takenFrom, heardAfter, arrived] using h
  | cons u later ih =>
    have hrest := fun u hu => hcalls u (List.mem_cons_of_mem _ hu)
    simp only [List.flatMap_cons, heardAfter_append] at hshort ⊢
    obtain ⟨hfailed, hhears⟩ := h.use u (hcalls u List.mem_cons_self) (shortLines_of_heardAfter hshort)
    obtain ⟨hmore, inputEnded', hlast⟩ := ih hhears hrest hshort
    refine ⟨?_, inputEnded', ?_⟩
    · intro hmem
      rcases List.mem_append.mp hmem with hmem | hmem
      · exact hfailed hmem
      · exact hmore hmem
    · rw [takenFrom, Clients.useAll, List.filterMap_append, ← List.append_assoc]
      exact hlast

/-- However the bytes of a client arrive, it stays connected, and its commands are the lines that it has
completed, trimmed, without the blank ones. -/
theorem commands_independent_of_reads (cs : Clients) (uses : List Use)
    (hcalls : ∀ u ∈ uses, Call Client.readBudget (u.outcomes cs.register.1))
    (hshort : ∀ line ∈ (arrived (uses.flatMap (Use.outcomes cs.register.1))).splitOn lineFeed,
      line.length ≤ Client.maxLine) :
    let service := cs.register.1
    let sent := arrived (uses.flatMap (Use.outcomes service))
    let (after, failed, taken) := cs.register.2.1.useAll uses
    service ∉ failed ∧ after.isConnected service = true ∧
      ∃ c, after.client? service = some c ∧ takenFrom service taken ++ c.lines =
        ((sent.splitOn lineFeed).dropLast.map fun line => Text.trim (Utf8.decodeLossy line)).filter
          (· ≠ "") := by
  obtain ⟨hfailed, _, c, hc, hheard⟩ := (hears_register cs).useAll uses hcalls hshort
  refine ⟨hfailed, isConnected_iff.mpr ⟨c, hc, hheard.connected⟩, c, hc, ?_⟩
  rw [← commands_eq]
  exact hheard.framed.lines

theorem commands_of_cut_line :
    let uses : List Use :=
      [.read fun _ => [.data [0xC3], .interrupted, .data [0xA9, 13], .wouldBlock],
        .read fun _ => [.data [10, 10, 32], .wouldBlock], .take ⟨1⟩,
        .read fun _ => [.data [98, 10, 99], .ended], .read fun _ => [.data [10]]]
    let (after, failed, taken) := ({} : Clients).register.2.1.useAll uses
    ⟨1⟩ ∉ failed ∧ after.isConnected ⟨1⟩ = true ∧
      ∃ c, after.client? ⟨1⟩ = some c ∧ takenFrom ⟨1⟩ taken ++ c.lines = ["é", "b"] := by
  intro uses
  have hcalls : ∀ u ∈ uses, Call Client.readBudget (u.outcomes ⟨1⟩) := by
    intro u hu
    simp only [uses, List.mem_cons, List.not_mem_nil, or_false] at hu
    rcases hu with rfl | rfl | rfl | rfl | rfl
    · exact .data _ _ _ (.interrupted _ _ (.data _ _ _ (.blocked _)))
    · exact .data _ _ _ (.blocked _)
    · exact .silent _
    · exact .data _ _ _ (.ended _)
    · exact .data _ _ _ (.silent _)
  have hshort : ∀ line ∈ (arrived (uses.flatMap (Use.outcomes ⟨1⟩))).splitOn lineFeed,
      line.length ≤ Client.maxLine := by decide
  have hlines : (((arrived (uses.flatMap (Use.outcomes ⟨1⟩))).splitOn lineFeed).dropLast.map
      fun line => Text.trim (Utf8.decodeLossy line)).filter (· ≠ "") = ["é", "b"] := by decide
  rw [← hlines]
  exact commands_independent_of_reads {} uses hcalls hshort

end Clients

end Channel

end RouteServer
