import RouteServer.Text.Decimal

/-! # Numerals are read back

A number is written with the digits of a base and no leading zeros, and what is written is read as the
number again.
-/

namespace RouteServer

theorem eq_iff_of_read {α β : Type} {render : α → β} {read? : β → Option α}
    (h : ∀ a, read? (render a) = some a) {a b : α} : render a = render b ↔ a = b := by
  constructor
  · intro heq
    have hread := h a
    rw [heq, h b] at hread
    exact (Option.some.inj hread).symm
  · rintro rfl
    rfl

namespace Decimal

/-! ## Digits -/

theorem toList_toString (n : Nat) : (toString n).toList = Nat.toDigits 10 n := by
  rw [Nat.toString_eq_ofList_toDigits, String.toList_ofList]

theorem toString_ne_empty (n : Nat) : toString n ≠ "" := by
  intro hempty
  have hnil := toList_toString n
  rw [hempty] at hnil
  exact Nat.toDigits_ne_nil hnil.symm

theorem exists_digit_of_mem_toDigits {base n : Nat} (hbase : 1 < base) {c : Char}
    (hc : c ∈ Nat.toDigits base n) : ∃ d < base, c = Nat.digitChar d := by
  induction n using Nat.strongRecOn with
  | ind n ih =>
    by_cases hn : n < base
    · rw [Nat.toDigits_of_lt_base hn, List.mem_singleton] at hc
      exact ⟨n, hn, hc⟩
    · rw [Nat.toDigits_of_base_le hbase (by omega), List.mem_append, List.mem_singleton] at hc
      rcases hc with hc | hc
      · exact ih (n / base) (Nat.div_lt_self (by omega) hbase) hc
      · exact ⟨n % base, Nat.mod_lt n (by omega), hc⟩

theorem head?_toDigits_ne {n : Nat} (hn : n ≠ 0) : (Nat.toDigits 10 n).head? ≠ some '0' := by
  induction n using Nat.strongRecOn with
  | ind n ih =>
    by_cases hlt : n < 10
    · rw [Nat.toDigits_of_lt_base hlt]
      intro h
      have hzero : Nat.digitChar n = '0' := by simpa using h
      exact hn (Nat.digitChar_eq_zero.mp hzero)
    · have hfirst := ih (n / 10) (by omega) (by omega)
      rw [Nat.toDigits_of_base_le (by decide) (by omega)]
      cases hdigits : Nat.toDigits 10 (n / 10) with
      | nil => exact absurd hdigits Nat.toDigits_ne_nil
      | cons c cs =>
        rw [hdigits] at hfirst
        exact hfirst

/-! ## Reading -/

theorem dropPlus_of_digits {cs : List Char} (h : ∀ c ∈ cs, c.isDigit = true) : dropPlus cs = cs := by
  unfold dropPlus
  split
  · cases h '+' List.mem_cons_self
  · rfl

theorem digits?_toDigits (n : Nat) : digits? (Nat.toDigits 10 n) = some n := by
  have hdigits : ∀ c ∈ Nat.toDigits 10 n, c.isDigit = true := fun c =>
    Nat.isDigit_of_mem_toDigits (by decide) (by decide)
  rw [digits?, if_pos ⟨Nat.toDigits_ne_nil, List.all_eq_true.mpr hdigits⟩, Nat.ofDigitChars_ten_toDigits]

theorem below?_toDigits {bound n : Nat} (hn : n < bound) : below? bound (Nat.toDigits 10 n) = some n := by
  have hdigits : ∀ c ∈ Nat.toDigits 10 n, c.isDigit = true := fun c =>
    Nat.isDigit_of_mem_toDigits (by decide) (by decide)
  rw [below?, dropPlus_of_digits hdigits, digits?_toDigits, Option.filter_some, if_pos (by simpa using hn)]

theorem readUInt16?_toString (n : UInt16) : readUInt16? (toString n.toNat) = some n := by
  rw [readUInt16?, toList_toString, below?_toDigits n.toNat_lt, Option.map_some, UInt16.ofNat_toNat]

theorem readUInt32?_toString (n : UInt32) : readUInt32? (toString n.toNat) = some n := by
  rw [readUInt32?, toList_toString, below?_toDigits n.toNat_lt, Option.map_some, UInt32.ofNat_toNat]

end Decimal

end RouteServer
