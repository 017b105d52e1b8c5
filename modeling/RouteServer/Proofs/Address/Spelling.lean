import RouteServer.Proofs.Address.Text
import RouteServer.Proofs.Text

/-! # The characters of an address

An address is read from digits, dots and colons, and from letters up to F. Whatever its spelling, it is one word.
-/

namespace RouteServer

/-! ## IPv4 -/

/-- A character from the dot to the last hexadecimal digit. -/
def Address.Plain (c : Char) : Prop := '.' ≤ c ∧ c ≤ 'f'

theorem Address.plain_of_isDigit {c : Char} (h : c.isDigit = true) : Plain c := by
  rw [Char.isDigit, Bool.and_eq_true, decide_eq_true_eq, decide_eq_true_eq] at h
  exact ⟨Char.le_trans (by decide : '.' ≤ '0') h.1, Char.le_trans h.2 (by decide : '9' ≤ 'f')⟩

theorem IPv4.plain_of_parseChars? {cs : List Char} {x : IPv4} (h : parseChars? cs = some x) :
    ∀ c ∈ cs, Address.Plain c := by
  intro c hc
  rcases eq_dot_or_isDigit h hc with rfl | hdigit
  · exact ⟨by decide, by decide⟩
  · exact Address.plain_of_isDigit hdigit

/-! ## IPv6 -/

namespace IPv6

open Address (Plain)

theorem plain_of_hexDigit? {c : Char} {d : Nat} (h : hexDigit? c = some d) : Plain c := by
  have hwithin {a b : Char} (ha : '.' ≤ a) (hb : b ≤ 'f') (hc : a ≤ c ∧ c ≤ b) : Plain c :=
    ⟨Char.le_trans ha hc.1, Char.le_trans hc.2 hb⟩
  unfold hexDigit? at h
  split at h
  case isTrue hdigit => exact hwithin (by decide) (by decide) hdigit
  split at h
  case isTrue hsmall => exact hwithin (by decide) (by decide) hsmall
  split at h
  case isTrue hcapital => exact hwithin (by decide) (by decide) hcapital
  cases h

theorem plain_of_mapM {cs : List Char} {ds : List Nat} (h : cs.mapM hexDigit? = some ds) : ∀ c ∈ cs, Plain c := by
  induction cs generalizing ds with
  | nil => exact fun c hc => nomatch hc
  | cons first rest ih =>
    simp only [List.mapM_cons, Option.bind_eq_bind, Option.bind_eq_some_iff] at h
    obtain ⟨_, hfirst, _, hrest, -⟩ := h
    exact List.forall_mem_cons.mpr ⟨plain_of_hexDigit? hfirst, ih hrest⟩

theorem plain_of_group? {cs : List Char} {g : UInt16} (h : group? cs = some g) : ∀ c ∈ cs, Plain c := by
  rw [group?, Option.ite_none_right_eq_some, Option.map_eq_some_iff] at h
  obtain ⟨-, _, hdigits, -⟩ := h
  exact plain_of_mapM hdigits

theorem plain_of_groupsOf? {pieces : List (List Char)} {gs : List UInt16} (h : groupsOf? pieces = some gs) :
    ∀ piece ∈ pieces, ∀ c ∈ piece, Plain c := by
  fun_induction groupsOf? pieces generalizing gs with
  | case1 => exact fun piece hpiece => nomatch hpiece
  | case2 last =>
    simp only [Option.orElse_eq_orElse, Option.orElse_eq_or, Option.or_eq_some_iff, Option.map_eq_some_iff] at h
    rw [List.forall_mem_singleton]
    rcases h with ⟨_, hgroup, -⟩ | ⟨-, _, haddress, -⟩
    · exact plain_of_group? hgroup
    · exact IPv4.plain_of_parseChars? haddress
  | case3 piece rest hrest ih =>
    simp only [Option.bind_eq_bind, Option.bind_eq_some_iff] at h
    obtain ⟨_, hpiece, _, hgroups, -⟩ := h
    exact List.forall_mem_cons.mpr ⟨plain_of_group? hpiece, ih hgroups⟩

theorem plain_of_groups? {cs : List Char} {gs : List UInt16} (h : groups? cs = some gs) : ∀ c ∈ cs, Plain c := by
  unfold groups? at h
  split at h
  · rename_i hnil
    exact fun c hc => nomatch hnil ▸ hc
  · have hwhole : [':'].intercalate (cs.splitOn ':') = cs := List.intercalate_splitOn ':'
    intro c hc
    rw [← hwhole] at hc
    rcases Lists.mem_of_mem_intercalate hc with hcolon | ⟨piece, hpiece, hmem⟩
    · obtain rfl := List.mem_singleton.mp hcolon
      exact ⟨by decide, by decide⟩
    · exact plain_of_groupsOf? h piece hpiece c hmem

theorem eq_around_gap {cs before after : List Char} (h : splitGap cs = some (before, after)) :
    cs = before ++ ':' :: ':' :: after := by
  fun_induction splitGap cs generalizing before with
  | case1 rest =>
    cases h
    rfl
  | case2 c rest hgap ih =>
    obtain ⟨⟨front, back⟩, hsplit, heq⟩ := Option.map_eq_some_iff.mp h
    cases heq
    rw [ih hsplit, List.cons_append]
  | case3 => cases h

theorem plain_of_parseChars? {cs : List Char} {x : IPv6} (h : parseChars? cs = some x) : ∀ c ∈ cs, Plain c := by
  unfold parseChars? at h
  split at h
  · obtain ⟨_, hgroups, -⟩ := Option.bind_eq_some_iff.mp h
    exact plain_of_groups? hgroups
  · rename_i before after hgap
    simp only [Option.bind_eq_bind, Option.bind_eq_some_iff] at h
    obtain ⟨_, hbefore, _, hafter, -⟩ := h
    have hcolon : Plain ':' := ⟨by decide, by decide⟩
    simp only [eq_around_gap hgap, List.forall_mem_append, List.forall_mem_cons]
    exact ⟨plain_of_groups? hbefore, hcolon, hcolon, plain_of_groups? hafter⟩

end IPv6

/-! ## Either version -/

theorem Address.plain_of_parse? {text : String} {a : Address} (h : parse? text = some a) :
    ∀ c ∈ text.toList, Plain c := by
  simp only [parse?, parseChars?, Option.orElse_eq_orElse, Option.orElse_eq_or, Option.or_eq_some_iff,
    Option.map_eq_some_iff] at h
  rcases h with ⟨_, hread, -⟩ | ⟨-, _, hread, -⟩
  · exact IPv4.plain_of_parseChars? hread
  · exact IPv6.plain_of_parseChars? hread

theorem Address.isWord_of_parse? {text : String} {a : Address} (h : parse? text = some a) : Text.IsWord text where
  nonempty := by
    rintro rfl
    cases h
  unbroken c hc := by
    obtain ⟨hlow, hhigh⟩ := plain_of_parse? h c hc
    have hlow' : '.'.toNat ≤ c.toNat := hlow
    have hhigh' : c.toNat ≤ 'f'.toNat := hhigh
    exact Text.isBlank_of_visible ⟨Nat.lt_of_lt_of_le (by decide) hlow', Nat.lt_of_le_of_lt hhigh' (by decide)⟩

theorem Address.comma_notMem_of_parse? {text : String} {a : Address} (h : parse? text = some a) :
    ',' ∉ text.toList := by
  intro hcomma
  exact absurd (plain_of_parse? h ',' hcomma).1 (by decide)

end RouteServer
