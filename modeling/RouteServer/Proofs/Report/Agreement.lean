import RouteServer.Proofs.Report.Duration
import RouteServer.Proofs.Report.Lines
import RouteServer.Proofs.Report.Rebuilt

/-! # The reports tell the same

What the extensive report shows in its tables, and the summary in its counts, is what the object of the session says
in the report for programs: there is a row for each entry, and its cells say what stands under the name of the entry
for both ends.
-/

namespace RouteServer

/-! ## Columns -/

namespace Text

theorem wordChars_filler (width : Nat) (text : String) (cs : List Char) :
    wordChars ((filler width text).toList ++ cs) = wordChars cs := by
  have hblanks : ∀ n, wordChars (List.replicate n ' ' ++ cs) = wordChars cs := by
    intro n
    induction n with
    | zero => rfl
    | succ n ih =>
      have hbegin : List.replicate (n + 1) ' ' ++ cs = [] ++ ' ' :: (List.replicate n ' ' ++ cs) := by
        rw [List.replicate_succ]
        rfl
      rw [hbegin, wordChars_append_blank rfl, ih]
      rfl
  rw [filler, String.toList_ofList, hblanks]

theorem words_alignRight (width : Nat) (text : String) : words (alignRight width text) = words text := by
  rw [words, alignRight, String.toList_append, wordChars_filler, words]

theorem words_alignLeft (width : Nat) (text : String) : words (alignLeft width text) = words text := by
  have hfiller := wordChars_filler width text []
  rw [List.append_nil] at hfiller
  rw [words, alignLeft, String.toList_append]
  cases hblanks : (filler width text).toList with
  | nil => rw [List.append_nil, words]
  | cons c rest =>
    have hc : isBlank c = true := by
      have hmem : c ∈ (filler width text).toList := hblanks ▸ List.mem_cons_self
      rw [filler, String.toList_ofList] at hmem
      rw [List.eq_of_mem_replicate hmem]
      rfl
    rw [hblanks] at hfiller
    have hrest : wordChars rest = [] := (wordChars_append_blank hc [] rest).symm.trans hfiller
    rw [wordChars_append_blank hc, hrest, List.append_nil, words]

end Text

namespace Json.Value

/-- What stands in objects under names, one inside the other. -/
def at? (v : Value) (path : List String) : Option Value :=
  path.foldl (fun v? name => v?.bind (member? name)) (some v)

theorem member?_keyed {α : Type} (encode : α → Value) (m : Keyed String α) (name : String) :
    (Report.Record.keyed encode m).member? name = (m.get? name).map encode := by
  have hlookup : ∀ entries : List (String × α),
      (entries.map fun e => (e.1, encode e.2)).lookup name =
        ((entries.find? fun e => compare name e.1 == .eq).map (·.2)).map encode := by
    intro entries
    induction entries with
    | nil => rfl
    | cons e rest ih =>
      rw [List.map_cons, List.lookup_cons, ih]
      by_cases hname : name = e.1
      · simp [hname]
      · simp [beq_false_of_ne hname, hname]
  exact hlookup m.toList

end Json.Value

namespace Report

open Session Json Json.Value

/-! ## Cells -/

/-- What a cell says of a flag. -/
inductive FlagCell : Value → String → Prop
  | enabled : FlagCell (.bool true) "enabled"
  | disabled : FlagCell (.bool false) "disabled"
  | unknown : FlagCell .null "n/a"

/-- What a cell says of both directions: whether we send, and whether the peer receives. -/
inductive ModeCell : Bool → Bool → String → Prop
  | both : ModeCell true true "send/receive"
  | send : ModeCell true false "send"
  | receive : ModeCell false true "receive"
  | neither : ModeCell false false "disabled"

/-- A number that is counted, or zero where nothing is. -/
inductive Counted : Option Value → Nat → Prop
  | some (n : Nat) : Counted (some (.ofNat n)) n
  | none : Counted none 0

/-! ## Rows -/

/-- Cells behind one another, each with a blank before it and at the right of a column of 15 characters. A cell that
is wider is kept whole. -/
inductive Cells : List String → List Char → Prop
  | nil : Cells [] []
  | cons (cell : String) (gap : Nat) (cells : List String) (chars : List Char)
    (hgap : gap + cell.length = max 15 cell.length) (hcells : Cells cells chars) :
    Cells (cell :: cells) (' ' :: (List.replicate gap ' ' ++ cell.toList ++ chars))

/-- A line of a table with a label and cells: what is read in it, word by word, and where it stands. The label is at
the left of a column of 20 characters, behind three blanks. -/
structure IsRow (label : String) (cells : List String) (line : String) : Prop where
  read : Text.words line = Text.words label ++ cells.flatMap Text.words
  placed : ∃ gap chars, gap + label.length = max 20 label.length ∧ Cells cells chars ∧
    line.toList = [' ', ' ', ' '] ++ label.toList ++ List.replicate gap ' ' ++ chars

/-- A row of the table of capabilities, as the object has it. -/
inductive CapabilityTold (object : Value) (name line : String) : Prop
  | row (ours theirs : Value) (first second : String)
    (hours : object.at? ["local", "capabilities", name] = some ours)
    (htheirs : object.at? ["peer", "capabilities", name] = some theirs)
    (hfirst : FlagCell ours first) (hsecond : FlagCell theirs second)
    (hline : IsRow (name ++ ":") [first, second, ""] line)

/-- A row of the table of families, as the object has it. The list of families has those that are enabled for both
ends. -/
inductive FamilyTold (object : Value) (name line : String) : Prop
  | row (ours theirs sends receives : Bool) (first second mode : String) (common : List String)
    (hours : object.at? ["local", "families", name] = some (.bool ours))
    (htheirs : object.at? ["peer", "families", name] = some (.bool theirs))
    (hfirst : FlagCell (.bool ours) first) (hsecond : FlagCell (.bool theirs) second)
    (hsends : object.at? ["local", "add-path", name] = some (.bool sends))
    (hreceives : object.at? ["peer", "add-path", name] = some (.bool receives))
    (hmode : ModeCell sends receives mode)
    (hcombined : object.at? ["add-path", name] = some (.string mode))
    (hcommon : object.at? ["families"] = some (.strings common))
    (hboth : name ∈ common ↔ first = "enabled" ∧ second = "enabled")
    (hline : IsRow (name ++ ":") [first, second, mode] line)

/-- A row of the table of messages, as the object has it. -/
inductive MessageTold (object : Value) (name line : String) : Prop
  | row (sent received : Nat)
    (hsent : object.at? ["messages", "sent", name] = some (.ofNat sent))
    (hreceived : object.at? ["messages", "received", name] = some (.ofNat received))
    (hline : IsRow (name ++ ":") [toString sent, toString received, ""] line)

theorem Cells.alignRight {cells : List String} {chars : List Char} (h : Cells cells chars) (cell : String) :
    Cells (cell :: cells) (' ' :: ((Text.alignRight 15 cell).toList ++ chars)) := by
  rw [Text.alignRight, String.toList_append, Text.filler, String.toList_ofList]
  exact .cons cell _ cells chars (by omega) h

theorem isRow_row (label first second third : String) :
    IsRow label [first, second, third] (row label first second third) where
  read := by
    have hindent : Text.words (row label first second third) = _ :=
      Text.words_append_space "  " (Text.unwords [Text.alignLeft 20 label, Text.alignRight 15 first,
        Text.alignRight 15 second, Text.alignRight 15 third])
    rw [hindent, Text.words_unwords_eq]
    simp only [List.flatMap_cons, List.flatMap_nil, Text.words_alignLeft, Text.words_alignRight]
    rfl
  placed := by
    have hcells := ((Cells.nil.alignRight third).alignRight second).alignRight first
    refine ⟨20 - label.length, _, by omega, hcells, ?_⟩
    simp [row, Text.unwords, Text.alignLeft, Text.filler]

/-! ## The object of a snapshot -/

theorem flagCell_flag (b? : Option Bool) : FlagCell (.ofOption .bool b?) (flag b?) := by
  match b? with
  | some true => exact .enabled
  | some false => exact .disabled
  | none => exact .unknown

theorem flag_eq_enabled_iff {b : Bool} : flag (some b) = "enabled" ↔ b = true := by
  cases b <;> decide

theorem modeCell_addPath (state : FamilyState) : ModeCell state.sends state.receives state.addPath.render := by
  obtain ⟨_, _, sends, receives⟩ := state
  cases sends <;> cases receives <;> constructor

section

variable {s : Snapshot}

theorem capabilityTold {name : String} {c : Capability} (h : s.capabilities.get? name = some c) :
    CapabilityTold (Record.ofSnapshot s).toValue name (capabilityRow name c) := by
  refine .row (.ofOption .bool c.ours) (.ofOption .bool c.theirs) (flag c.ours) (flag c.theirs) ?_ ?_
    (flagCell_flag c.ours) (flagCell_flag c.theirs) (isRow_row ..)
  · simp [at?, Record.toValue, Record.side, Record.ofSnapshot, member?_keyed, h]
  · simp [at?, Record.toValue, Record.side, Record.ofSnapshot, member?_keyed, h]

theorem at?_families (s : Snapshot) :
    (Record.ofSnapshot s).toValue.at? ["families"] = some (.strings (Record.ofSnapshot s).families) := by
  simp [at?, Record.toValue]

theorem familyTold {p : Family} {state : FamilyState} (h : s.families.get? p = some state) :
    FamilyTold (Record.ofSnapshot s).toValue p.render (familyRow p state) := by
  have hboth : p.render ∈ (Record.ofSnapshot s).families ↔
      flag (some state.ours) = "enabled" ∧ flag (some state.theirs) = "enabled" := by
    rw [mem_families, flag_eq_enabled_iff, flag_eq_enabled_iff]
    constructor
    · rintro ⟨q, other, hother, hname, hflags⟩
      obtain rfl := Family.render_inj.mp hname
      obtain rfl := Option.some.inj (h.symm.trans hother)
      exact hflags
    · exact fun hflags => ⟨p, state, h, rfl, hflags⟩
  refine .row state.ours state.theirs state.sends state.receives _ _ _ _ ?ours ?theirs (flagCell_flag (some _))
    (flagCell_flag (some _)) ?sends ?receives (modeCell_addPath state) ?combined (at?_families s) hboth
    (isRow_row ..)
  all_goals simp [at?, Record.toValue, Record.side, Record.ofSnapshot, member?_keyed, Record.get?_perFamily, h]

theorem messageTold {name : String} {c : Counter} (h : s.messages.get? name = some c) :
    MessageTold (Record.ofSnapshot s).toValue name (messageRow name c) := by
  refine .row c.sent c.received ?_ ?_ (isRow_row ..)
  · simp [at?, Record.toValue, Record.ofSnapshot, member?_keyed, h]
  · simp [at?, Record.toValue, Record.ofSnapshot, member?_keyed, h]

theorem counted_counter (count : Counter → Nat) (hzero : count {} = 0) (c? : Option Counter) :
    Counted (c?.map (.ofNat ∘ count)) (count (c?.getD {})) := by
  cases c? with
  | none =>
    rw [Option.getD_none, hzero]
    exact .none
  | some c => exact .some (count c)

theorem counted_updates (s : Snapshot) :
    Counted ((Record.ofSnapshot s).toValue.at? ["messages", "sent", "update"]) s.updates.sent ∧
      Counted ((Record.ofSnapshot s).toValue.at? ["messages", "received", "update"]) s.updates.received := by
  have hsent := counted_counter (·.sent) rfl (s.messages.get? "update")
  have hreceived := counted_counter (·.received) rfl (s.messages.get? "update")
  constructor
  · simpa [at?, Record.toValue, Record.ofSnapshot, member?_keyed, Snapshot.updates] using hsent
  · simpa [at?, Record.toValue, Record.ofSnapshot, member?_keyed, Snapshot.updates] using hreceived

end

/-! ## The tables of a report -/

/-- The tables of a report, each of which an empty line ends. -/
def tables (report : List String) : List (List String) := report.splitOn ""

theorem row_ne_empty (label first second third : String) : row label first second third ≠ "" := by
  simp [row, String.append_eq_empty_iff]

theorem tables_extensive (s : Snapshot) : (tables (extensive s)).drop 3 =
    ["    Capability                      Local          Remote" ::
        s.capabilities.toList.map (fun (name, c) => capabilityRow name c),
      "    Families                        Local          Remote        Add-Path" ::
        s.families.toList.map (fun (family, state) => familyRow family state),
      "    Message Statistic                Sent        Received" ::
        s.messages.toList.map (fun (name, c) => messageRow name c),
      []] := by
  have hjoined : extensive s = [""].intercalate
      (["Neighbor " ++ s.peerAddress.render] ::
        ["    Session                         Local",
          row "local" s.localAddress.render "" "",
          row "state" s.fsm.render "" "",
          row (if s.uptime.isUp then "up for" else "down for") (duration s.uptime.seconds) "" ""] ::
        ["    Setup                           Local          Remote",
          row "AS" (number s.localAs.toNat) (orUnknown (number ·.toNat) s.peerAs) "",
          row "ID" s.localId.render (orUnknown IPv4.render s.peerId) "",
          row "hold-time" (number s.localHold.toNat) (orUnknown (number ·.toNat) s.peerHold) ""] ::
        ["    Capability                      Local          Remote" ::
            s.capabilities.toList.map (fun (name, c) => capabilityRow name c),
          "    Families                        Local          Remote        Add-Path" ::
            s.families.toList.map (fun (family, state) => familyRow family state),
          "    Message Statistic                Sent        Received" ::
            s.messages.toList.map (fun (name, c) => messageRow name c),
          []]) := by
    simp [extensive, List.intercalate_cons_cons]
  have hrow (label first second third : String) : "" ≠ row label first second third :=
    (row_ne_empty label first second third).symm
  rw [hjoined, tables, List.splitOn_intercalate "" ?_ (List.cons_ne_nil _ _)]
  · rfl
  · simp [hrow, capabilityRow, familyRow, messageRow, row_ne_empty, String.append_eq_empty_iff]

/-! ## The summary -/

theorem words_number (n : Nat) : Text.words (number n) = [number n] := Text.words_word (numeral_toString n).isWord

theorem words_summaryRow (s : Snapshot) :
    ∃ front, Text.words (summaryRow s) = front ++ [number s.updates.sent, number s.updates.received] := by
  rw [summaryRow, Text.words_unwords_eq]
  simp only [List.flatMap_cons, List.flatMap_nil, Text.words_alignRight, words_number, ← List.append_assoc,
    List.append_nil]
  exact ⟨_, List.append_assoc ..⟩

/-! ## Both reports -/

theorem forall₂_map_toList {κ β : Type} [Ord κ] [Std.TransOrd κ] [Std.LawfulEqOrd κ] {m : Keyed κ β}
    {Told : κ → String → Prop} {line : κ × β → String}
    (h : ∀ k v, m.get? k = some v → Told k (line (k, v))) : List.Forall₂ Told m.keys (m.toList.map line) := by
  rw [Keyed.keys, List.forall₂_map_left_iff, List.forall₂_map_right_iff, List.forall₂_same]
  exact fun e he => h e.1 e.2 (Keyed.get?_eq_some_iff.mpr he)

/-- The last three tables of the extensive report have a row for each capability, family and kind of messages in the
order of their names, and each row says what the object of the session says for programs. So do the two numbers that
end the row of the summary. -/
theorem reports_tell_the_same (s : Snapshot) :
    let object := (Record.ofSnapshot s).toValue
    (∃ capabilities families messages,
      (tables (extensive s)).drop 3 =
        ["    Capability                      Local          Remote" :: capabilities,
          "    Families                        Local          Remote        Add-Path" :: families,
          "    Message Statistic                Sent        Received" :: messages,
          []] ∧
      List.Forall₂ (CapabilityTold object) s.capabilities.keys capabilities ∧
      List.Forall₂ (fun family => FamilyTold object family.render) s.families.keys families ∧
      List.Forall₂ (MessageTold object) s.messages.keys messages) ∧
    (∃ names, object.at? ["families"] = some (.strings names) ∧
      ∀ name ∈ names, ∃ family ∈ s.families.keys, family.render = name) ∧
    ∃ front sent received, Text.words (summaryRow s) = front ++ [toString sent, toString received] ∧
      Counted (object.at? ["messages", "sent", "update"]) sent ∧
      Counted (object.at? ["messages", "received", "update"]) received := by
  intro object
  refine ⟨⟨_, _, _, tables_extensive s, ?capabilities, ?families, ?messages⟩, ⟨_, at?_families s, ?names⟩, ?summary⟩
  case capabilities => exact forall₂_map_toList fun _ _ => capabilityTold
  case families => exact forall₂_map_toList fun _ _ => familyTold
  case messages => exact forall₂_map_toList fun _ _ => messageTold
  case names =>
    intro name hname
    obtain ⟨family, state, hstate, rfl, -⟩ := mem_families.mp hname
    exact ⟨family, Keyed.mem_keys_iff.mpr ⟨state, hstate⟩, rfl⟩
  case summary =>
    obtain ⟨front, hwords⟩ := words_summaryRow s
    exact ⟨front, _, _, hwords, counted_updates s⟩

end Report

end RouteServer
