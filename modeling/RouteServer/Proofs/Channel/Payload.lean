import RouteServer.Proofs.Channel.Framing
import RouteServer.Proofs.Utf8

/-! # Lines that are not taken for anything else

A client cuts what it is sent at line feeds, and takes the texts of the markers for the ends of responses. It
finds the lines of a response again if each is one line and no marker.
-/

namespace RouteServer

open Channel

/-! ## Payload -/

/-- A text without line feeds. -/
def Text.Unbroken (text : String) : Prop := '\n' ∉ text.toList

instance (text : String) : Decidable (Text.Unbroken text) := inferInstanceAs (Decidable (¬ _))

/-- A text that a client takes for one line of a response. -/
structure Payload (text : String) : Prop where
  unbroken : Text.Unbroken text
  unmarked : ∀ answer : Answer, text ≠ answer.render

theorem payload_iff {text : String} :
    Payload text ↔ Text.Unbroken text ∧ text ≠ Answer.done.render ∧ text ≠ Answer.error.render := by
  refine ⟨fun h => ⟨h.unbroken, h.unmarked .done, h.unmarked .error⟩, fun h => ⟨h.1, ?_⟩⟩
  rintro (_ | _)
  · exact h.2.1
  · exact h.2.2

instance (text : String) : Decidable (Payload text) := decidable_of_iff _ payload_iff.symm

theorem Payload.of_mem {text : String} (h : Text.Unbroken text) {c : Char} (hmem : c ∈ text.toList)
    (hc : c.isAlpha = false) : Payload text where
  unbroken := h
  unmarked answer := by
    rintro rfl
    have hletters : answer.render.toList.all Char.isAlpha = true := by
      cases answer <;> decide
    rw [List.all_eq_true.mp hletters c hmem] at hc
    cases hc

/-- A line that is payload, or a marker. -/
def Output.Legible : Output → Prop
  | .line text => Payload text
  | .marker _ => True

theorem Output.Legible.unbroken {o : Output} (h : o.Legible) : Text.Unbroken o.render := by
  cases o with
  | line text => exact Payload.unbroken h
  | marker answer => cases answer <;> decide

/-! ## The bytes of lines -/

namespace Channel

theorem lineFeed_notMem_encode {o : Output} (h : o.Legible) : lineFeed ∉ Utf8.encode o.render :=
  fun hmem => h.unbroken (Utf8.lineFeed_mem_encode.mp hmem)

/-- What a client takes for a marker is one. -/
theorem encode_eq_marker_iff {o : Output} (h : o.Legible) {answer : Answer} :
    Utf8.encode o.render = Utf8.encode answer.render ↔ o = .marker answer := by
  rw [Utf8.encode_inj]
  refine ⟨fun heq => ?_, congrArg Output.render⟩
  cases o with
  | line text => exact absurd heq (Payload.unmarked h answer)
  | marker other =>
    have hinj : ∀ a b : Answer, a.render = b.render → a = b := by
      rintro (_ | _) (_ | _) <;> decide
    exact congrArg Output.marker (hinj other answer heq)

/-- Cutting the bytes at line feeds gives the lines back. -/
theorem splitOn_encode {outputs : List Output} (h : ∀ o ∈ outputs, o.Legible) :
    (encode outputs).splitOn lineFeed = outputs.map (fun o => Utf8.encode o.render) ++ [[]] := by
  induction outputs with
  | nil => rfl
  | cons o rest ih =>
    obtain ⟨hfirst, hrest⟩ := List.forall_mem_cons.mp h
    rw [encode, List.flatMap_cons, List.append_assoc, List.singleton_append,
      List.splitOn_append_cons_self, List.splitOn_eq_singleton (lineFeed_notMem_encode hfirst), ← encode,
      ih hrest]
    rfl

theorem dropLast_splitOn_prefix {arrived all : List UInt8} (h : arrived <+: all) :
    (arrived.splitOn lineFeed).dropLast <+: (all.splitOn lineFeed).dropLast := by
  obtain ⟨rest, rfl⟩ := h
  rw [Lists.splitOn_append, List.dropLast_append_of_ne_nil (List.splitOn_ne_nil lineFeed _)]
  exact List.prefix_append _ _

end Channel

end RouteServer
