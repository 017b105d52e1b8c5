import Mathlib.Data.List.Induction
import RouteServer.Proofs.Channel.Reading

/-! # Lines that are too long

A client is closed when a read ends too far in a line that is not complete. A line whose end comes with the
read that takes it past the limit goes through: what is refused depends on where the reads end, and only
lines that are longer than the limit by a whole read are always refused.
-/

namespace RouteServer

namespace Channel

/-! ## Reads -/

/-- What the reads with data bring, up to the end of the input. -/
def dataOf : List ReadOutcome → List (List UInt8)
  | [] => []
  | .ended :: _ => []
  | .data bytes :: rest => bytes :: dataOf rest
  | _ :: rest => dataOf rest

theorem flatten_dataOf (outcomes : List ReadOutcome) : (dataOf outcomes).flatten = arrived outcomes := by
  fun_induction dataOf outcomes <;> simp_all [arrived]

theorem dataOf_append_of_ended {a : List ReadOutcome} (h : .ended ∈ a) (b : List ReadOutcome) :
    dataOf (a ++ b) = dataOf a := by
  induction a with
  | nil => cases h
  | cons outcome rest ih => cases outcome <;> simp_all [dataOf]

theorem dataOf_append_of_not_ended {a : List ReadOutcome} (h : .ended ∉ a) (b : List ReadOutcome) :
    dataOf (a ++ b) = dataOf a ++ dataOf b := by
  induction a with
  | nil => rfl
  | cons outcome rest ih => cases outcome <;> simp_all [dataOf]

/-- No read ends with more of an unfinished line than a line may have. -/
def Within (reads : List (List UInt8)) : Prop :=
  ∀ early, early <+: reads → (remainder early.flatten).length ≤ Client.maxLine

theorem within_nil : Within [] := by
  intro early hearly
  obtain rfl := List.prefix_nil.mp hearly
  exact Nat.zero_le _

theorem Within.dropLast {reads : List (List UInt8)} (h : Within reads) : Within reads.dropLast :=
  fun early hearly => h early (hearly.trans (List.dropLast_prefix reads))

theorem Within.of_append {reads more : List (List UInt8)} (h : Within (reads ++ more)) : Within reads :=
  fun early hearly => h early (hearly.trans (List.prefix_append reads more))

theorem Within.of_dataOf_append {a b : List ReadOutcome} (h : Within (dataOf (a ++ b))) :
    Within (dataOf a) := by
  by_cases hmem : .ended ∈ a
  · rwa [dataOf_append_of_ended hmem] at h
  · rw [dataOf_append_of_not_ended hmem] at h
    exact h.of_append

theorem Within.concat {reads : List (List UInt8)} (h : Within reads) {bytes : List UInt8}
    (hlast : (remainder (reads ++ [bytes]).flatten).length ≤ Client.maxLine) :
    Within (reads ++ [bytes]) := by
  intro early hearly
  rcases List.prefix_concat_iff.mp hearly with rfl | hearly
  · exact hlast
  · exact h early hearly

/-- The reads up to the first that ends too far in a line. -/
structure Admits (reads seen : List (List UInt8)) : Prop where
  first : seen <+: reads
  within : Within seen.dropLast
  whole : (remainder seen.flatten).length ≤ Client.maxLine → seen = reads

theorem Within.admits {reads : List (List UInt8)} (h : Within reads) : Admits reads reads where
  first := List.prefix_refl reads
  within := h.dropLast
  whole := fun _ => rfl

theorem Admits.within_of_le {reads seen : List (List UInt8)} (h : Admits reads seen)
    (hlast : (remainder seen.flatten).length ≤ Client.maxLine) : seen = reads ∧ Within reads := by
  obtain rfl := h.whole hlast
  refine ⟨rfl, ?_⟩
  rcases List.eq_nil_or_concat seen with rfl | ⟨early, bytes, rfl⟩
  · exact within_nil
  · rw [List.concat_eq_append] at h hlast ⊢
    have hwithin := h.within
    rw [List.dropLast_concat] at hwithin
    exact hwithin.concat hlast

theorem Admits.eq_of_within {reads seen : List (List UInt8)} (h : Admits reads seen)
    (hwithin : Within reads) : seen = reads := h.whole (hwithin seen h.first)

theorem Admits.append {reads seen : List (List UInt8)} (h : Admits reads seen)
    (hlast : Client.maxLine < (remainder seen.flatten).length) (more : List (List UInt8)) :
    Admits (reads ++ more) seen where
  first := h.first.trans (List.prefix_append reads more)
  within := h.within
  whole := fun hle => absurd hle (Nat.not_le.mpr hlast)

theorem Admits.lt_iff {reads seen : List (List UInt8)} (h : Admits reads seen) :
    Client.maxLine < (remainder seen.flatten).length ↔ ¬ Within reads := by
  constructor
  · intro hlast hwithin
    exact Nat.not_le.mpr hlast (hwithin seen h.first)
  · intro hnot
    exact Nat.not_le.mp fun hle => hnot (h.within_of_le hle).2

/-! ## Lines -/

theorem dropLast_or_remainder {input line : List UInt8} (h : line ∈ input.splitOn lineFeed) :
    line ∈ (input.splitOn lineFeed).dropLast ∨ line = remainder input := by
  have hne := List.splitOn_ne_nil lineFeed input
  rw [← List.dropLast_concat_getLast hne, List.mem_append, List.mem_singleton] at h
  rwa [remainder, List.getLastD_eq_getLast?, List.getLast?_eq_some_getLast hne, Option.getD_some]

theorem ShortLines.within {reads : List (List UInt8)} (h : ShortLines reads.flatten) : Within reads := by
  rintro early ⟨late, rfl⟩
  rw [List.flatten_append] at h
  exact h.remainder_length

theorem Within.lines_lt {reads : List (List UInt8)} (h : Within reads.dropLast)
    (hsize : ∀ bytes ∈ reads, bytes.length ≤ Client.readSize) :
    ∀ line ∈ (reads.flatten.splitOn lineFeed).dropLast,
      line.length < Client.maxLine + Client.readSize := by
  induction reads using List.reverseRecOn with
  | nil => simp
  | append_singleton early bytes ih =>
    rw [List.dropLast_concat] at h
    intro line hline
    rw [List.flatten_append, List.flatten_singleton, Lists.splitOn_append,
      List.dropLast_append_of_ne_nil (List.splitOn_ne_nil lineFeed _), List.mem_append] at hline
    rcases hline with hline | hline
    · exact ih h.dropLast (fun bytes hbytes => hsize bytes (List.mem_append_left _ hbytes)) line hline
    · have hlength := Lists.length_lt_of_mem_splitOn hline
      have hleft := h early (List.prefix_refl early)
      have hread := hsize bytes (List.mem_append_right _ (List.mem_singleton_self bytes))
      rw [List.length_append] at hlength
      rw [remainder] at hleft
      omega

/-! ## One call -/

namespace Client

/-- A call takes in what its reads bring, up to the read that ends too far in a line. -/
theorem fill_admits {c : Client} {before : List (List UInt8)} {taken : List String}
    (h : c.Framed before.flatten taken) (hwithin : Within before) {budget : Nat}
    {outcomes : List ReadOutcome} (hcall : Call budget outcomes) :
    let r := fill budget c outcomes
    ∃ seen, Admits (before ++ dataOf outcomes) seen ∧ before.flatten ++ r.received = seen.flatten ∧
      r.client.Framed seen.flatten taken ∧
        (r.client.closed = c.closed ∧ r.client.inputEnded = c.inputEnded) ∧
          r.inbound = if maxLine < (remainder seen.flatten).length then .overlong
            else if .ended ∈ outcomes then .ended else .waiting := by
  have hfits : ¬ maxLine < (remainder before.flatten).length :=
    Nat.not_lt.mpr (hwithin before (List.prefix_refl before))
  have hnone : Admits (before ++ []) before := (List.append_nil before).symm ▸ hwithin.admits
  induction hcall generalizing c before with
  | silent budget =>
    refine ⟨before, hnone, ?_⟩
    cases budget <;> simpa [fill, hfits] using h
  | blocked budget => exact ⟨before, hnone, by simpa [fill, hfits] using h⟩
  | ended budget => exact ⟨before, hnone, by simpa [fill, hfits] using h⟩
  | interrupted budget rest hrest ih => simpa [fill, dataOf] using ih h hwithin hfits hnone
  | data budget bytes rest hrest ih =>
    have hflat : before.flatten ++ bytes = (before ++ [bytes]).flatten := by simp
    have hfed := h.feed bytes
    rw [hflat] at hfed
    by_cases hlong : maxLine < (remainder (before ++ [bytes]).flatten).length
    · have hadmits : Admits (before ++ dataOf (.data bytes :: rest)) (before ++ [bytes]) := by
        refine ⟨?_, ?_, fun hle => absurd hle (Nat.not_le.mpr hlong)⟩
        · exact ⟨dataOf rest, by simp [dataOf]⟩
        · rwa [List.dropLast_concat]
      refine ⟨before ++ [bytes], hadmits, ?_⟩
      rw [← hfed.unfinished] at hlong
      rw [← hfed.unfinished, if_pos hlong]
      simp only [fill, if_pos hlong]
      exact ⟨hflat, hfed, ⟨rfl, rfl⟩, trivial⟩
    · have hnext := hwithin.concat (Nat.not_lt.mp hlong)
      obtain ⟨seen, hadmits, hreceived, hframed, hkept, hinbound⟩ :=
        ih hfed hnext hlong ((List.append_nil (before ++ [bytes])).symm ▸ hnext.admits)
      rw [← hfed.unfinished] at hlong
      rw [dataOf, List.append_cons]
      simp only [fill, if_neg hlong]
      rw [← hflat, List.append_assoc] at hreceived
      exact ⟨seen, hadmits, hreceived, hframed, hkept, by simpa using hinbound⟩

end Client

/-! ## Many calls -/

namespace Clients

/-- A client after reads: it is closed when one of them has ended too far in a line, and its commands are
those of the reads up to there. -/
structure Limited (c : Client) (reads : List (List UInt8)) (inputEnded : Bool) (taken : List String)
    (seen : List (List UInt8)) : Prop where
  admits : Admits reads seen
  framed : c.Framed seen.flatten taken
  closed_iff : c.closed = true ↔ Client.maxLine < (remainder seen.flatten).length
  inputEnded : c.closed = false → c.inputEnded = inputEnded

variable {c : Client} {reads seen : List (List UInt8)} {inputEnded : Bool} {taken : List String}

theorem Limited.within (h : Limited c reads inputEnded taken seen) (hopen : c.closed = false) :
    seen = reads ∧ Within reads := by
  refine h.admits.within_of_le (Nat.not_lt.mp fun hlong => ?_)
  rw [h.closed_iff.mpr hlong] at hopen
  cases hopen

/-- What has been read of a client, if more reads give what they give. -/
def readAfter (reads : List (List UInt8)) (inputEnded : Bool) (outcomes : List ReadOutcome) :
    List (List UInt8) :=
  if inputEnded then reads else reads ++ dataOf outcomes

theorem readAfter_append (reads : List (List UInt8)) (inputEnded : Bool) (a b : List ReadOutcome) :
    readAfter reads inputEnded (a ++ b) =
      readAfter (readAfter reads inputEnded a) (inputEnded || decide (.ended ∈ a)) b := by
  cases inputEnded with
  | true => rfl
  | false =>
    by_cases hmem : .ended ∈ a
    · simp [readAfter, hmem, dataOf_append_of_ended]
    · simp [readAfter, hmem, dataOf_append_of_not_ended]

theorem Limited.readClient (h : Limited c reads inputEnded taken seen) (service : Service)
    {outcomes : List ReadOutcome} (hcall : Call Client.readBudget outcomes) :
    let p := readClient outcomes service c
    (∃ seen, Limited p.client (readAfter reads inputEnded outcomes)
      (inputEnded || decide (.ended ∈ outcomes)) taken seen) ∧
      (p.failed = true ↔ c.closed = false ∧ p.client.closed = true) ∧
      (c.closed = true → p.client.closed = true) := by
  cases hclosed : c.closed with
  | true =>
    have hlong := h.closed_iff.mp hclosed
    have hsame : Clients.readClient outcomes service c = { client := c } := by
      simp [Clients.readClient, hclosed]
    rw [hsame]
    refine ⟨⟨seen, ?_, h.framed, h.closed_iff, fun hopen => absurd (hclosed.symm.trans hopen) (by decide)⟩,
      by simp, fun _ => hclosed⟩
    unfold readAfter
    split
    · exact h.admits
    · exact h.admits.append hlong _
  | false =>
    cases inputEnded with
    | true =>
      have hsame : Clients.readClient outcomes service c = { client := c } := by
        simp [Clients.readClient, h.inputEnded hclosed]
      rw [hsame]
      exact ⟨⟨seen, h⟩, by simp [hclosed], fun hopen => absurd hopen (by decide)⟩
    | false =>
      obtain ⟨rfl, hwithin⟩ := h.within hclosed
      obtain ⟨next, hadmits, -, hframed, ⟨hkept, hended⟩, hinbound⟩ :=
        Client.fill_admits h.framed hwithin hcall
      rw [hclosed] at hkept
      rw [h.inputEnded hclosed] at hended
      simp only [Clients.readClient, hclosed, h.inputEnded hclosed, Bool.or_self, Bool.false_eq_true,
        if_false, readAfter, Bool.false_or, true_and, false_implies, and_true]
      by_cases hlong : Client.maxLine < (remainder next.flatten).length
      · rw [hinbound, if_pos hlong]
        exact ⟨⟨next, hadmits, ⟨hframed.lines, hframed.unfinished⟩, by simp [hlong],
          by rintro ⟨⟩⟩, by simp⟩
      · have hclosed_iff : (false = true) ↔ Client.maxLine < (remainder next.flatten).length := by
          simp [hlong]
        rw [hinbound, if_neg hlong]
        by_cases hmem : .ended ∈ outcomes
        · simp only [hmem, decide_true]
          exact ⟨⟨next, hadmits, ⟨hframed.lines, hframed.unfinished⟩, hkept ▸ hclosed_iff, fun _ => rfl⟩,
            by simp [hkept]⟩
        · simp only [hmem, decide_false]
          exact ⟨⟨next, hadmits, hframed, hkept ▸ hclosed_iff, fun _ => hended⟩, by simp [hkept]⟩

/-! ## Uses -/

/-- A client by its number, with what has been read of it and which of its commands are taken. -/
def Reads (cs : Clients) (service : Service) (reads : List (List UInt8)) (inputEnded : Bool)
    (taken : List String) (closed : Bool) : Prop :=
  ∃ c seen, cs.client? service = some c ∧ Limited c reads inputEnded taken seen ∧ c.closed = closed

variable {cs : Clients} {service : Service} {closed : Bool}

theorem Reads.read (h : cs.Reads service reads inputEnded taken closed)
    {outcomes : Service → List ReadOutcome} (hcall : Call Client.readBudget (outcomes service)) :
    ∃ later, (cs.readAvailable outcomes).1.Reads service (readAfter reads inputEnded (outcomes service))
        (inputEnded || decide (.ended ∈ outcomes service)) taken later ∧
      (service ∈ (cs.readAvailable outcomes).2.1 ↔ closed = false ∧ later = true) ∧
      (closed = true → later = true) := by
  obtain ⟨c, seen, hc, hlimited, rfl⟩ := h
  obtain ⟨⟨next, hnext⟩, hfailed, hstays⟩ := hlimited.readClient service hcall
  refine ⟨_, ⟨_, next, ?_, hnext, rfl⟩, ?_, hstays⟩
  · rw [readAvailable, visit_client?, hc]
    rfl
  · rw [readAvailable, mem_visit_failed, hc, ← hfailed]
    simp

theorem Reads.take (h : cs.Reads service reads inputEnded taken closed) (other : Service) :
    (cs.nextLine other).2.Reads service reads inputEnded
      (taken ++ takenFrom service ((cs.nextLine other).1.toList.map (other, ·))) closed := by
  obtain ⟨c, seen, hc, hlimited, hclosed⟩ := h
  have hclient := nextLine_client? other cs service
  rw [hc, Option.map_some] at hclient
  have hline := nextLine_line other cs
  by_cases htaken : service = other ∧ c.closed = false
  · rw [if_pos htaken] at hclient
    obtain ⟨rfl, hopen⟩ := htaken
    rw [hc, Option.bind_some, hopen, if_neg Bool.false_ne_true] at hline
    refine ⟨_, seen, hclient, ⟨hlimited.admits, ⟨?_, hlimited.framed.unfinished⟩, hlimited.closed_iff,
      hlimited.inputEnded⟩, hclosed⟩
    rw [← hlimited.framed.lines, hline, List.append_assoc]
    cases c.lines <;> simp [takenFrom]
  · rw [if_neg htaken] at hclient
    have hnothing : takenFrom service ((cs.nextLine other).1.toList.map (other, ·)) = [] := by
      by_cases hother : service = other
      · subst hother
        rw [hline, hc, Option.bind_some, if_pos (by simpa using htaken)]
        rfl
      · cases (cs.nextLine other).1 <;> simp [takenFrom, Ne.symm hother]
    rw [hnothing, List.append_nil]
    exact ⟨c, seen, hclient, hlimited, hclosed⟩

theorem Reads.use (h : cs.Reads service reads inputEnded taken closed) (u : Use)
    (hcall : Call Client.readBudget (u.outcomes service)) :
    ∃ later, (cs.use u).1.Reads service (readAfter reads inputEnded (u.outcomes service))
        (inputEnded || decide (.ended ∈ u.outcomes service))
        (taken ++ takenFrom service (cs.use u).2.2) later ∧
      (service ∈ (cs.use u).2.1 ↔ closed = false ∧ later = true) ∧ (closed = true → later = true) := by
  cases u with
  | read outcomes =>
    simp only [takenFrom, Clients.use, List.filterMap_nil, List.append_nil]
    exact h.read hcall
  | take other =>
    have hnone : readAfter reads inputEnded ((Use.take other).outcomes service) = reads := by
      cases inputEnded <;> simp [readAfter, Use.outcomes, dataOf]
    rw [hnone]
    refine ⟨closed, ?_, by simp [Clients.use], id⟩
    simpa [Clients.use, Use.outcomes] using h.take other

theorem Reads.useAll (h : cs.Reads service reads inputEnded taken closed) (uses : List Use)
    (hcalls : ∀ u ∈ uses, Call Client.readBudget (u.outcomes service)) :
    ∃ inputEnded' later, (cs.useAll uses).1.Reads service
        (readAfter reads inputEnded (uses.flatMap (Use.outcomes service))) inputEnded'
        (taken ++ takenFrom service (cs.useAll uses).2.2) later ∧
      (service ∈ (cs.useAll uses).2.1 ↔ closed = false ∧ later = true) ∧
      (closed = true → later = true) := by
  induction uses generalizing cs reads inputEnded taken closed with
  | nil =>
    refine ⟨inputEnded, closed, ?_, by simp [Clients.useAll], id⟩
    cases inputEnded <;> simpa [Clients.useAll, takenFrom, readAfter, dataOf] using h
  | cons u later ih =>
    have hrest := fun u hu => hcalls u (List.mem_cons_of_mem _ hu)
    obtain ⟨mid, hreads, hfailed, hstays⟩ := h.use u (hcalls u List.mem_cons_self)
    obtain ⟨inputEnded', last, hlast, hmore, hlater⟩ := ih hreads hrest
    refine ⟨inputEnded', last, ?_, ?_, fun hclosed => hlater (hstays hclosed)⟩
    · rw [List.flatMap_cons, readAfter_append, takenFrom, Clients.useAll, List.filterMap_append,
        ← List.append_assoc]
      exact hlast
    · rw [Clients.useAll, List.mem_append, hfailed, hmore]
      cases closed <;> cases mid <;> cases last <;> simp_all

/-- What has become of a client by the reads of its input. -/
structure Refuses (after : Clients) (failed : List Service) (taken : List String) (service : Service)
    (reads : List (List UInt8)) (c : Client) (seen : List (List UInt8)) : Prop where
  admits : Admits reads seen
  client : after.client? service = some c
  /-- The commands that are taken or wait are those of the reads up to the one that closes the client. -/
  commands : taken ++ c.lines = commands seen.flatten
  closed_iff : c.closed = true ↔ ¬ Within reads
  failed_iff : service ∈ failed ↔ c.closed = true
  /-- From a closed client no command is taken. -/
  silent : c.closed = true → (after.nextLine service).1 = none
  /-- No line goes through that is longer than the limit by a whole read. -/
  bounded : ∀ line ∈ (seen.flatten.splitOn lineFeed).dropLast,
    line.length < Client.maxLine + Client.readSize
  far : ∀ line ∈ reads.flatten.splitOn lineFeed,
    Client.maxLine + Client.readSize ≤ line.length → c.closed = true
  near : (∀ line ∈ reads.flatten.splitOn lineFeed, line.length ≤ Client.maxLine) → c.closed = false

/-- A client is closed by the first read that ends with more of an unfinished line than a line may have,
and nothing that it has sent from there on becomes a command. -/
theorem closed_where_read_ends_past_limit (cs : Clients) (uses : List Use)
    (hcalls : ∀ u ∈ uses, Call Client.readBudget (u.outcomes cs.register.1))
    (hsize : ∀ bytes ∈ dataOf (uses.flatMap (Use.outcomes cs.register.1)),
      bytes.length ≤ Client.readSize) :
    let service := cs.register.1
    let reads := dataOf (uses.flatMap (Use.outcomes service))
    let result := cs.register.2.1.useAll uses
    ∃ c seen, Refuses result.1 result.2.1 (takenFrom service result.2.2) service reads c seen := by
  intro service reads result
  have hstart : cs.register.2.1.Reads cs.register.1 [] false [] false := by
    refine ⟨{}, [], (register_client? ..).trans (if_pos rfl), ?_, rfl⟩
    exact ⟨within_nil.admits, ⟨rfl, rfl⟩, by simp [remainder], fun _ => rfl⟩
  obtain ⟨_, closed, ⟨c, seen, hc, hlimited, rfl⟩, hfailed, -⟩ := hstart.useAll uses hcalls
  have hadmits := hlimited.admits
  have hclosed : c.closed = true ↔ ¬ Within reads := hlimited.closed_iff.trans hadmits.lt_iff
  refine ⟨c, seen, hadmits, hc, hlimited.framed.lines, hclosed, by simpa using hfailed, ?_, ?_, ?_, ?_⟩
  · intro hclosed
    rw [nextLine_line, hc, Option.bind_some, if_pos hclosed]
  · exact hadmits.within.lines_lt fun bytes hbytes => hsize bytes (hadmits.first.subset hbytes)
  · intro line hline hlong
    refine hclosed.mpr fun hwithin => ?_
    rcases dropLast_or_remainder hline with hline | rfl
    · exact Nat.not_lt.mpr hlong (hwithin.admits.within.lines_lt hsize line hline)
    · have hlast := hwithin reads (List.prefix_refl reads)
      exact absurd (Nat.le_trans hlong hlast) (by decide)
  · intro hshort
    refine Bool.not_eq_true _ ▸ fun hlost => ?_
    exact hclosed.mp hlost (ShortLines.within hshort)

/-! ## A line past the limit -/

theorem dataOf_map (reads : List (List UInt8)) : dataOf (reads.map .data) = reads := by
  induction reads with
  | nil => rfl
  | cons bytes rest ih => exact congrArg (bytes :: ·) ih

theorem call_map {reads : List (List UInt8)} {budget : Nat} (h : reads.length ≤ budget) :
    Call budget (reads.map .data) := by
  induction reads generalizing budget with
  | nil => exact .silent budget
  | cons bytes rest ih =>
    cases budget with
    | zero => cases h
    | succ budget => exact .data budget _ _ (ih (Nat.le_of_succ_le_succ h))

theorem remainder_of_notMem {input : List UInt8} (h : lineFeed ∉ input) : remainder input = input := by
  rw [remainder, List.splitOn_eq_singleton h]
  rfl

theorem remainder_of_line (line : List UInt8) : remainder (line ++ [lineFeed]) = [] := by
  rw [remainder, List.splitOn_append_cons_self]
  simp

theorem commands_of_line {line : List UInt8} (h : lineFeed ∉ line) :
    commands (line ++ [lineFeed]) = (Client.command? line).toList := by
  rw [commands, List.splitOn_append_cons_self, List.splitOn_eq_singleton h]
  cases hcommand : Client.command? line <;> simp [hcommand]

/-- So many letters. -/
def letters (n : Nat) : List UInt8 := List.replicate n 120

/-- As many full reads as a call may have: a line that is as long as a line may be. -/
def fullReads : List (List UInt8) := List.replicate Client.readBudget (letters Client.readSize)

/-- A call that fills the line up to the limit, and a call with more reads. -/
def twoCalls (more : List (List UInt8)) : List Use :=
  [.read fun _ => fullReads.map .data, .read fun _ => more.map .data]

theorem decode_letters (n : Nat) : Utf8.decode (letters n) = List.replicate n (some 'x') := by
  induction n with
  | zero => rfl
  | succ n ih => exact congrArg (some 'x' :: ·) ih

theorem trim_letters (n : Nat) :
    Text.trim (Utf8.decodeLossy (letters n)) = .ofList (List.replicate n 'x') := by
  have hblank : ¬ Text.isBlank 'x' = true := by decide
  rw [Utf8.decodeLossy, decode_letters, List.map_replicate, Option.getD_some, Text.trim,
    String.toList_ofList, Text.trimChars, Text.trimStart, Text.trimEnd, List.dropWhile_replicate,
    if_neg hblank, List.reverse_replicate, List.dropWhile_replicate, if_neg hblank,
    List.reverse_replicate]

theorem command?_letters {n : Nat} (h : 0 < n) :
    Client.command? (letters n) = some (.ofList (List.replicate n 'x')) := by
  rw [Client.command?, trim_letters]
  refine if_neg fun hempty => ?_
  have hnone := congrArg (·.toList.length) hempty
  rw [String.toList_ofList, List.length_replicate] at hnone
  exact Nat.ne_of_gt h hnone

theorem lineFeed_notMem_letters (n : Nat) : lineFeed ∉ letters n := fun h =>
  absurd (List.eq_of_mem_replicate h) (by decide)

theorem letters_append (m n : Nat) : letters m ++ letters n = letters (m + n) :=
  List.replicate_append_replicate

theorem flatten_fullReads : fullReads.flatten = letters Client.maxLine :=
  List.flatten_replicate_replicate

theorem within_fullReads : Within fullReads := by
  intro early hearly
  obtain ⟨hlength, heq⟩ := List.prefix_replicate_iff.mp hearly
  have hflatten : early.flatten = letters (early.length * Client.readSize) :=
    (congrArg List.flatten heq).trans List.flatten_replicate_replicate
  rw [hflatten, remainder_of_notMem (lineFeed_notMem_letters _), letters, List.length_replicate]
  exact Nat.mul_le_mul_right Client.readSize hlength

theorem dataOf_twoCalls (more : List (List UInt8)) :
    dataOf ((twoCalls more).flatMap (Use.outcomes ⟨1⟩)) = fullReads ++ more := by
  rw [← dataOf_map (fullReads ++ more), List.map_append]
  exact congrArg (fun rest => dataOf (fullReads.map .data ++ rest)) (List.append_nil _)

theorem arrived_twoCalls (more : List (List UInt8)) :
    arrived ((twoCalls more).flatMap (Use.outcomes ⟨1⟩)) = letters Client.maxLine ++ more.flatten := by
  rw [← flatten_dataOf, dataOf_twoCalls, List.flatten_append, flatten_fullReads]

theorem call_twoCalls {more : List (List UInt8)} (h : more.length ≤ Client.readBudget) :
    ∀ u ∈ twoCalls more, Call Client.readBudget (u.outcomes ⟨1⟩) := by
  intro u hu
  rcases List.mem_cons.mp hu with rfl | hu
  · exact call_map (Nat.le_of_eq List.length_replicate)
  · obtain rfl := List.mem_singleton.mp hu
    exact call_map h

theorem size_twoCalls {more : List (List UInt8)} (h : ∀ bytes ∈ more, bytes.length ≤ Client.readSize) :
    ∀ bytes ∈ dataOf ((twoCalls more).flatMap (Use.outcomes ⟨1⟩)), bytes.length ≤ Client.readSize := by
  intro bytes hbytes
  rw [dataOf_twoCalls, List.mem_append] at hbytes
  rcases hbytes with hbytes | hbytes
  · exact Nat.le_of_eq (List.eq_of_mem_replicate hbytes ▸ List.length_replicate)
  · exact h bytes hbytes

/-- A line that is past the limit by a hundred bytes goes through when its end comes with the read that
takes it there, and closes the client when that read ends after one byte. -/
theorem long_line_taken_or_refused :
    let whole := twoCalls [letters 100 ++ [lineFeed]]
    let cut := twoCalls [letters 1, letters 99 ++ [lineFeed]]
    let sent (uses : List Use) := arrived (uses.flatMap (Use.outcomes ⟨1⟩))
    sent whole = letters (Client.maxLine + 100) ++ [lineFeed] ∧ sent cut = sent whole ∧
      (∃ c, (({} : Clients).register.2.1.useAll whole).1.client? ⟨1⟩ = some c ∧ c.closed = false ∧
        c.lines = [.ofList (List.replicate (Client.maxLine + 100) 'x')]) ∧
      ∃ c, (({} : Clients).register.2.1.useAll cut).1.client? ⟨1⟩ = some c ∧ c.closed = true := by
  intro whole cut sent
  have hwhole : sent whole = letters (Client.maxLine + 100) ++ [lineFeed] := by
    rw [show sent whole = _ from arrived_twoCalls _, List.flatten_singleton, ← List.append_assoc,
      letters_append]
  have hcut : sent cut = letters (Client.maxLine + 100) ++ [lineFeed] := by
    rw [show sent cut = _ from arrived_twoCalls _, List.flatten_cons, List.flatten_singleton,
      ← List.append_assoc, ← List.append_assoc, letters_append, letters_append]
  refine ⟨hwhole, hcut.trans hwhole.symm, ?_, ?_⟩
  · obtain ⟨c, seen, h⟩ := closed_where_read_ends_past_limit {} whole (call_twoCalls (by decide))
      (size_twoCalls (by decide))
    have hflatten := (flatten_dataOf _).trans hwhole
    have hwithin : Within (dataOf (whole.flatMap (Use.outcomes ⟨1⟩))) := by
      rw [dataOf_twoCalls] at hflatten ⊢
      refine within_fullReads.concat ?_
      rw [hflatten, remainder_of_line]
      exact Nat.zero_le _
    have hcommands := h.commands
    rw [h.admits.eq_of_within hwithin,
      show (dataOf (whole.flatMap (Use.outcomes ({} : Clients).register.1))).flatten = _ from hflatten,
      commands_of_line (lineFeed_notMem_letters _), command?_letters (Nat.succ_pos _)] at hcommands
    exact ⟨c, h.client, Bool.eq_false_iff.mpr fun hlost => h.closed_iff.mp hlost hwithin, hcommands⟩
  · obtain ⟨c, seen, h⟩ := closed_where_read_ends_past_limit {} cut (call_twoCalls (by decide))
      (size_twoCalls (by decide))
    refine ⟨c, h.client, h.closed_iff.mpr fun hall => ?_⟩
    have hfirst : fullReads ++ [letters 1] <+: dataOf (cut.flatMap (Use.outcomes ⟨1⟩)) := by
      rw [dataOf_twoCalls]
      exact ⟨[letters 99 ++ [lineFeed]], List.append_assoc ..⟩
    have hearly := hall _ hfirst
    rw [List.flatten_append, flatten_fullReads, List.flatten_singleton, letters_append,
      remainder_of_notMem (lineFeed_notMem_letters _), letters, List.length_replicate] at hearly
    exact Nat.not_succ_le_self _ hearly

end Clients

end Channel

end RouteServer
