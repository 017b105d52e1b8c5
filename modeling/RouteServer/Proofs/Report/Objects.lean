import RouteServer.Proofs.Address.Text
import RouteServer.Proofs.Json.RoundTrip
import RouteServer.Proofs.Keyed
import RouteServer.Report.Record

/-! # Records as objects

The object of a record is a value that all readers agree on, and the record is decoded from it again: each
field is looked up by its name and read in the form that it has.
-/

namespace RouteServer

open Json

/-! ## Decoding values -/

namespace Json.Value

def text? : Value → Option String
  | .string s => some s
  | _ => none

def flag? : Value → Option Bool
  | .bool b => some b
  | _ => none

def natural? : Value → Option Nat
  | .integer (.ofNat n) => some n
  | _ => none

def word32? (v : Value) : Option UInt32 := (v.natural?.filter (· < UInt32.size)).map UInt32.ofNat

def word16? (v : Value) : Option UInt16 := (v.natural?.filter (· < UInt16.size)).map UInt16.ofNat

def address? (v : Value) : Option Address := v.text?.bind Address.parse?

def ipv4? (v : Value) : Option IPv4 := v.text?.bind IPv4.parse?

/-- What is not known is null. -/
def known? (decode : Value → Option α) : Value → Option (Option α)
  | .null => some none
  | v => (decode v).map some

def items? (decode : Value → Option α) : Value → Option (List α)
  | .array items => items.mapM decode
  | _ => none

def named? (decode : Value → Option α) (m : String × Value) : Option (String × α) :=
  (decode m.2).map (m.1, ·)

def keyed? (decode : Value → Option α) : Value → Option (Keyed String α)
  | .object members => (members.mapM (named? decode)).map .ofList
  | _ => none

def field? (decode : Value → Option α) (name : String) (v : Value) : Option α :=
  (v.member? name).bind decode

@[simp]
theorem member?_cons_self (name : String) (v : Value) (members : List (String × Value)) :
    member? name (.object ((name, v) :: members)) = some v := List.lookup_cons_self

@[simp]
theorem member?_cons_of_ne {name key : String} (h : name ≠ key) (v : Value) (members : List (String × Value)) :
    member? name (.object ((key, v) :: members)) = member? name (.object members) := by
  have hlookup : List.lookup name ((key, v) :: members) = members.lookup name := by
    rw [List.lookup_cons, beq_false_of_ne h]
  exact hlookup

end Json.Value

/-- What is encoded is decoded. -/
def Decodes (encode : α → Value) (decode : Value → Option α) : Prop := ∀ a, decode (encode a) = some a

namespace Decodes

theorem text : Decodes Value.string Value.text? := fun _ => rfl

theorem flag : Decodes Value.bool Value.flag? := fun _ => rfl

theorem natural : Decodes Value.ofNat Value.natural? := fun _ => rfl

theorem word32 : Decodes (fun n : UInt32 => Value.ofNat n.toNat) Value.word32? := by
  intro n
  have hn : n.toNat < UInt32.size := n.toNat_lt
  rw [Value.word32?, natural n.toNat, Option.filter_some, if_pos (by simpa using hn), Option.map_some,
    UInt32.ofNat_toNat]

theorem word16 : Decodes (fun n : UInt16 => Value.ofNat n.toNat) Value.word16? := by
  intro n
  have hn : n.toNat < UInt16.size := n.toNat_lt
  rw [Value.word16?, natural n.toNat, Option.filter_some, if_pos (by simpa using hn), Option.map_some,
    UInt16.ofNat_toNat]

theorem address : Decodes (fun a : Address => Value.string a.render) Value.address? := by
  intro a
  simp only [Value.address?, Value.text?, Option.bind_some, Address.parse?_render]

theorem ipv4 : Decodes (fun i : IPv4 => Value.string i.render) Value.ipv4? := by
  intro i
  simp only [Value.ipv4?, Value.text?, Option.bind_some, IPv4.parse?_render]

variable {α : Type} {encode : α → Value} {decode : Value → Option α}

theorem known (h : Decodes encode decode) (hnull : ∀ a, encode a ≠ .null) :
    Decodes (Value.ofOption encode) (Value.known? decode) := by
  rintro (_ | a)
  · rfl
  · have hread : Value.known? decode (encode a) = (decode (encode a)).map some := by
      unfold Value.known?
      split
      · rename_i heq
        exact absurd heq (hnull a)
      · rfl
    rw [Value.ofOption, hread, h a]
    rfl

theorem mapM {β : Type} {f : α → β} {g : β → Option α} (h : ∀ a, g (f a) = some a) (as : List α) :
    (as.map f).mapM g = some as := by
  induction as with
  | nil => rfl
  | cons a rest ih => simp [h a, ih]

theorem strings : Decodes Value.strings (Value.items? Value.text?) := mapM text

theorem keyed (h : Decodes encode decode) :
    Decodes (Report.Record.keyed encode) (Value.keyed? decode) := by
  intro m
  have hnamed : ∀ e : String × α, Value.named? decode (e.1, encode e.2) = some e := by
    intro e
    rw [Value.named?, h e.2]
    rfl
  rw [Report.Record.keyed, Value.keyed?, mapM hnamed, Option.map_some, Keyed.ofList_toList]

end Decodes

namespace Report

open Json Value

/-! ## Decoding records -/

def Side.ofValue? (v : Value) : Option Side := do
  return {
    capabilities := ← v.field? (keyed? (known? flag?)) "capabilities"
    families := ← v.field? (keyed? flag?) "families"
    addPath := ← v.field? (keyed? flag?) "add-path"
    address := ← v.field? address? "address"
    asNumber := ← v.field? (known? word32?) "as"
    id := ← v.field? (known? ipv4?) "id"
    hold := ← v.field? (known? word16?) "hold" }

namespace Record

def ofValue? (v : Value) : Option Record := do
  let messages ← v.member? "messages"
  return {
    state := ← v.field? text? "state"
    duration := ← v.field? natural? "duration"
    fsm := ← v.field? text? "fsm"
    ours := ← v.field? Side.ofValue? "local"
    theirs := ← v.field? Side.ofValue? "peer"
    sent := ← messages.field? (keyed? natural?) "sent"
    received := ← messages.field? (keyed? natural?) "received"
    capabilities := ← v.field? (items? text?) "capabilities"
    families := ← v.field? (items? text?) "families"
    addPath := ← v.field? (keyed? text?) "add-path" }

theorem decodes_side : Decodes side Side.ofValue? := by
  intro s
  have hcapabilities := Decodes.keyed (Decodes.flag.known fun _ => Value.noConfusion) s.capabilities
  have hfamilies := Decodes.flag.keyed s.families
  have haddPath := Decodes.flag.keyed s.addPath
  have haddress := Decodes.address s.address
  have hasNumber := Decodes.word32.known (fun _ => Value.noConfusion) s.asNumber
  have hid := Decodes.ipv4.known (fun _ => Value.noConfusion) s.id
  have hhold := Decodes.word16.known (fun _ => Value.noConfusion) s.hold
  simp [Side.ofValue?, side, field?, hcapabilities, hfamilies, haddPath, haddress, hasNumber, hid, hhold]

theorem decodes_toValue : Decodes toValue ofValue? := by
  intro r
  have hours := decodes_side r.ours
  have htheirs := decodes_side r.theirs
  have hsent := Decodes.natural.keyed r.sent
  have hreceived := Decodes.natural.keyed r.received
  have hcapabilities := Decodes.strings r.capabilities
  have hfamilies := Decodes.strings r.families
  have haddPath := Decodes.text.keyed r.addPath
  simp [ofValue?, toValue, field?, text?, Decodes.natural r.duration, hours, htheirs, hsent, hreceived,
    hcapabilities, hfamilies, haddPath]

/-! ## Exact values -/

section

variable {α : Type} {encode : α → Value}

theorem exact_ofOption (h : ∀ a, (encode a).Exact) (a? : Option α) : (ofOption encode a?).Exact := by
  cases a? with
  | none => exact .null
  | some a => exact h a

theorem exact_keyed (h : ∀ a, (encode a).Exact) (m : Keyed String α) : (keyed encode m).Exact := by
  refine .object _ ?_ (List.forall_mem_map.mpr fun e _ => h e.2)
  rw [List.map_map]
  exact m.keys_nodup

end

theorem exact_strings (texts : List String) : (strings texts).Exact :=
  .array _ (List.forall_mem_map.mpr fun text _ => .string text)

theorem exact_ofNat (n : Nat) : (ofNat n).Exact := .integer n

theorem exact_side (s : Side) : (side s).Exact := by
  refine .object _ (by simp) ?_
  simp only [List.forall_mem_cons, List.not_mem_nil, false_implies, implies_true, and_true]
  exact ⟨exact_keyed (exact_ofOption .bool) _, exact_keyed .bool _, exact_keyed .bool _, .string _,
    exact_ofOption (fun _ => exact_ofNat _) _, exact_ofOption (fun _ => .string _) _,
    exact_ofOption (fun _ => exact_ofNat _) _⟩

theorem exact_toValue (r : Record) : r.toValue.Exact := by
  have hmessages : (object [("sent", keyed ofNat r.sent), ("received", keyed ofNat r.received)]).Exact := by
    refine .object _ (by simp) ?_
    simp only [List.forall_mem_cons, List.not_mem_nil, false_implies, implies_true, and_true]
    exact ⟨exact_keyed exact_ofNat _, exact_keyed exact_ofNat _⟩
  refine .object _ (by simp) ?_
  simp only [List.forall_mem_cons, List.not_mem_nil, false_implies, implies_true, and_true]
  exact ⟨.string _, exact_ofNat _, .string _, exact_side _, exact_side _, hmessages, exact_strings _,
    exact_strings _, exact_keyed .string _⟩

end Record

theorem exact_objects (snapshots : List Session.Snapshot) :
    (array (snapshots.map fun s => (Record.ofSnapshot s).toValue)).Exact :=
  .array _ (List.forall_mem_map.mpr fun _ _ => Record.exact_toValue _)

end Report

end RouteServer
