import RouteServer.Proofs.Address.Text
import RouteServer.Proofs.Channel.Payload
import RouteServer.Proofs.Report.Objects
import RouteServer.Report.Record
import RouteServer.Report.Table

/-! # The lines of reports are payload

What a report shows are numbers, addresses, words of the protocol and names. The report for programs escapes
the names, the report for reading prints them as they are: it has a line for each of its entries if no name
has a line feed.
-/

namespace RouteServer

/-! ## Texts without line feeds -/

namespace Text

@[simp]
theorem unbroken_append {a b : String} : Unbroken (a ++ b) ↔ Unbroken a ∧ Unbroken b := by
  simp only [Unbroken, String.toList_append, List.mem_append, not_or]

theorem unbroken_of_alphabet {text : String} (h : ∀ c ∈ text.toList, c ∈ Address.alphabet) :
    Unbroken text := fun hmem => absurd (h '\n' hmem) (by decide)

@[simp]
theorem unbroken_toString (n : Nat) : Unbroken (toString n) :=
  unbroken_of_alphabet fun _ => Address.mem_alphabet_of_mem_toString

@[simp]
theorem unbroken_address (a : Address) : Unbroken a.render :=
  unbroken_of_alphabet fun _ => Address.mem_render

@[simp]
theorem unbroken_ipv4 (a : IPv4) : Unbroken a.render := unbroken_address (.v4 a)

theorem unbroken_intercalate {sep : String} (hsep : Unbroken sep) {texts : List String}
    (h : ∀ text ∈ texts, Unbroken text) : Unbroken (sep.intercalate texts) := by
  intro hmem
  rw [String.toList_intercalate] at hmem
  rcases Lists.mem_of_mem_intercalate hmem with hmem | ⟨cs, hcs, hmem⟩
  · exact hsep hmem
  · obtain ⟨text, htext, rfl⟩ := List.mem_map.mp hcs
    exact h text htext hmem

theorem unbroken_unwords {texts : List String} (h : ∀ text ∈ texts, Unbroken text) :
    Unbroken (unwords texts) := unbroken_intercalate (by decide) h

theorem space_mem_unwords (a b : String) (rest : List String) :
    ' ' ∈ (unwords (a :: b :: rest)).toList := by
  rw [unwords, String.toList_intercalate, List.map_cons, List.map_cons, List.intercalate_cons_cons]
  simp

@[simp]
theorem unbroken_filler (width : Nat) (text : String) : Unbroken (filler width text) := by
  simp [Unbroken, filler]

@[simp]
theorem unbroken_alignLeft {width : Nat} {text : String} :
    Unbroken (alignLeft width text) ↔ Unbroken text := by
  simp [alignLeft]

@[simp]
theorem unbroken_alignRight {width : Nat} {text : String} :
    Unbroken (alignRight width text) ↔ Unbroken text := by
  simp [alignRight]

end Text

/-- The names in a snapshot hold no line feeds. -/
structure Session.Snapshot.NamesUnbroken (s : Snapshot) : Prop where
  capabilities : ∀ name ∈ s.capabilities.keys, Text.Unbroken name
  messages : ∀ name ∈ s.messages.keys, Text.Unbroken name

namespace Report

open Session Text

/-! ## Cells -/

theorem unbroken_orUnknown {α : Type} {render : α → String} (h : ∀ a, Unbroken (render a))
    (a? : Option α) : Unbroken (orUnknown render a?) := by
  have hunknown : Unbroken "n/a" := by decide
  cases a? with
  | none => exact hunknown
  | some a => exact h a

@[simp]
theorem unbroken_flag (b? : Option Bool) : Unbroken (flag b?) :=
  unbroken_orUnknown (by decide) b?

@[simp]
theorem unbroken_number (n : Nat) : Unbroken (number n) := unbroken_toString n

@[simp]
theorem unbroken_asNumber (n? : Option UInt32) : Unbroken (orUnknown (number ·.toNat) n?) :=
  unbroken_orUnknown (fun _ => unbroken_toString _) n?

theorem unbroken_twoDigits (n : Nat) : Unbroken (Decimal.twoDigits n) := by
  unfold Decimal.twoDigits Decimal.render
  split
  · exact unbroken_append.mpr ⟨by decide, unbroken_toString n⟩
  · exact unbroken_toString n

theorem unbroken_dayPart (n : Nat) : Unbroken (dayPart n) := by
  match n with
  | 0 | 1 => decide
  | n + 2 => exact unbroken_append.mpr ⟨unbroken_toString _, by decide⟩

@[simp]
theorem unbroken_duration (seconds : Nat) : Unbroken (duration seconds) := by
  have hcolon : Unbroken ":" := by decide
  simp only [duration, clock, unbroken_append, unbroken_dayPart, unbroken_twoDigits, unbroken_toString,
    hcolon, and_self]

@[simp]
theorem unbroken_fsm (fsm : FsmState) : Unbroken fsm.render := by
  cases fsm <;> decide

@[simp]
theorem unbroken_addPath (mode : AddPath) : Unbroken mode.render := by
  cases mode <;> decide

@[simp]
theorem unbroken_family (family : Family) : Unbroken family.render := by
  obtain ⟨afi, safi⟩ := family
  cases afi <;> cases safi <;> decide

/-! ## The summary -/

theorem payload_summaryHeader : Payload summaryHeader := by decide

theorem payload_summaryRow (s : Snapshot) : Payload (summaryRow s) := by
  refine .of_mem (unbroken_unwords ?_) (space_mem_unwords ..) rfl
  have hfsm : Unbroken (lowercase s.fsm.render) := by
    cases s.fsm <;> decide
  have hdown : Unbroken "down" := by decide
  simp [hfsm, apply_ite Unbroken, hdown]

/-! ## The extensive report -/

theorem payload_row {label first second third : String} (hlabel : Unbroken label)
    (hfirst : Unbroken first) (hsecond : Unbroken second) (hthird : Unbroken third) :
    Payload (row label first second third) := by
  refine .of_mem (unbroken_append.mpr ⟨by decide, unbroken_unwords ?_⟩) (c := ' ') (by simp [row]) rfl
  simp [hlabel, hfirst, hsecond, hthird]

theorem payload_nameRow {name first second third : String} (hname : Unbroken name)
    (hfirst : Unbroken first) (hsecond : Unbroken second) (hthird : Unbroken third) :
    Payload (row (name ++ ":") first second third) :=
  payload_row (unbroken_append.mpr ⟨hname, by decide⟩) hfirst hsecond hthird

theorem payload_capabilityRow {name : String} (h : Unbroken name) (c : Capability) :
    Payload (capabilityRow name c) :=
  payload_nameRow h (unbroken_flag _) (unbroken_flag _) (by decide)

theorem payload_familyRow (family : Family) (s : FamilyState) : Payload (familyRow family s) :=
  payload_nameRow (unbroken_family _) (unbroken_flag _) (unbroken_flag _) (unbroken_addPath _)

theorem payload_messageRow {name : String} (h : Unbroken name) (c : Counter) :
    Payload (messageRow name c) :=
  payload_nameRow h (unbroken_number _) (unbroken_number _) (by decide)

theorem payload_extensive {s : Snapshot} (h : s.NamesUnbroken) : ∀ line ∈ extensive s, Payload line := by
  have hnone : Unbroken "" := by decide
  have hblank : Payload "" := by decide
  have hpeer : Payload ("Neighbor " ++ s.peerAddress.render) :=
    .of_mem (unbroken_append.mpr ⟨by decide, unbroken_address _⟩) (c := ' ') (by simp) rfl
  have hup : Unbroken (if s.uptime.isUp then "up for" else "down for") := by
    split <;> decide
  have hlocal {label first : String} (hlabel : Unbroken label) (hfirst : Unbroken first) :
      Payload (row label first "" "") := payload_row hlabel hfirst hnone hnone
  have hboth {label first second : String} (hlabel : Unbroken label) (hfirst : Unbroken first)
      (hsecond : Unbroken second) : Payload (row label first second "") :=
    payload_row hlabel hfirst hsecond hnone
  simp only [extensive, List.forall_mem_append, List.forall_mem_cons, List.forall_mem_map,
    List.not_mem_nil, false_implies, implies_true, and_true]
  refine ⟨⟨⟨⟨⟨⟨?session, ?capabilities⟩, hblank, by decide⟩, ?families⟩, hblank, by decide⟩, ?messages⟩, hblank⟩
  case session =>
    exact ⟨hpeer, hblank, by decide, hlocal (by decide) (unbroken_address _), hlocal (by decide) (unbroken_fsm _),
      hlocal hup (unbroken_duration _), hblank, by decide,
      hboth (by decide) (unbroken_number _) (unbroken_asNumber _),
      hboth (by decide) (unbroken_ipv4 _) (unbroken_orUnknown unbroken_ipv4 _),
      hboth (by decide) (unbroken_number _) (unbroken_orUnknown (fun _ => unbroken_number _) _), hblank,
      by decide⟩
  case capabilities =>
    exact fun entry hentry =>
      payload_capabilityRow (h.capabilities _ (List.mem_map_of_mem hentry)) entry.2
  case families => exact fun entry _ => payload_familyRow entry.1 entry.2
  case messages =>
    exact fun entry hentry => payload_messageRow (h.messages _ (List.mem_map_of_mem hentry)) entry.2

/-! ## The report for programs -/

theorem payload_json (snapshots : List Snapshot) : Payload (json snapshots) := by
  have hfree := (exact_objects snapshots).controlFree
  have hunbroken : Unbroken (json snapshots) := fun hmem => absurd (hfree '\n' hmem) (by decide)
  refine .of_mem hunbroken (c := '[') ?_ rfl
  simp [json, Json.Value.render]

end Report

end RouteServer
