import RouteServer.Address.Parser
import RouteServer.Address.Printer
import RouteServer.Proofs.Lists
import RouteServer.Proofs.Numerals

/-! # Addresses are read back

The canonical text of an address is read as the address again, so that two addresses with the same text are
equal. The text is made of few characters, none of which is white space or a mark.
-/

namespace RouteServer

/-- The characters of the text of an address. -/
def Address.alphabet : List Char := "0123456789abcdef.:".toList

theorem Address.mem_alphabet_of_mem_toDigits {base n : Nat} (hbase : 1 < base) (hle : base ≤ 16)
    {c : Char} (hc : c ∈ Nat.toDigits base n) : c ∈ Address.alphabet := by
  have hdigit : ∀ d < 16, Nat.digitChar d ∈ Address.alphabet := by decide
  obtain ⟨d, hd, rfl⟩ := Decimal.exists_digit_of_mem_toDigits hbase hc
  exact hdigit d (by omega)

theorem Address.mem_alphabet_of_mem_toString {n : Nat} {c : Char} (hc : c ∈ (toString n).toList) :
    c ∈ Address.alphabet := by
  rw [Decimal.toList_toString] at hc
  exact Address.mem_alphabet_of_mem_toDigits (by decide) (by decide) hc

/-! ## IPv4 -/

namespace IPv4

theorem octet?_toDigits (o : UInt8) : octet? (Nat.toDigits 10 o.toNat) = some o := by
  have hlt : o.toNat < 256 := o.toNat_lt
  have hlength : (Nat.toDigits 10 o.toNat).length ≤ 3 :=
    (Nat.length_toDigits_le_iff (by decide) (by decide)).mpr (by omega)
  have hdigits : (Nat.toDigits 10 o.toNat).all Char.isDigit = true := by
    rw [List.all_eq_true]
    exact fun c => Nat.isDigit_of_mem_toDigits (by decide) (by decide)
  have hfirst : Nat.toDigits 10 o.toNat = ['0'] ∨ (Nat.toDigits 10 o.toNat).head? ≠ some '0' := by
    by_cases hzero : o.toNat = 0
    · exact .inl (by rw [hzero]; rfl)
    · exact .inr (Decimal.head?_toDigits_ne hzero)
  rw [octet?, Nat.ofDigitChars_ten_toDigits,
    if_pos ⟨Nat.toDigits_ne_nil, hlength, hdigits, hfirst, hlt⟩, UInt8.ofNat_toNat]

def octetTexts (x : IPv4) : List (List Char) := x.octets.map fun o => Nat.toDigits 10 o.toNat

theorem toList_render (x : IPv4) : x.render.toList = ['.'].intercalate x.octetTexts := by
  have htexts : (x.octets.map fun o => toString o.toNat).map String.toList = x.octetTexts := by
    rw [List.map_map]
    exact List.map_congr_left fun o _ => Decimal.toList_toString o.toNat
  rw [render, String.toList_intercalate, htexts]
  rfl

theorem isDigit_of_mem_octetTexts {x : IPv4} {text : List Char} (htext : text ∈ x.octetTexts) {c : Char}
    (hc : c ∈ text) : c.isDigit = true := by
  obtain ⟨o, -, rfl⟩ := List.mem_map.mp htext
  exact Nat.isDigit_of_mem_toDigits (by decide) (by decide) hc

theorem mem_render {x : IPv4} {c : Char} (hc : c ∈ x.render.toList) : c ∈ Address.alphabet := by
  rw [toList_render] at hc
  rcases Lists.mem_of_mem_intercalate hc with hdot | ⟨text, htext, hc⟩
  · rw [List.mem_singleton.mp hdot]
    decide
  · obtain ⟨o, -, rfl⟩ := List.mem_map.mp htext
    exact Address.mem_alphabet_of_mem_toDigits (by decide) (by decide) hc

theorem parseChars?_render (x : IPv4) : parseChars? x.render.toList = some x := by
  have hdot : ∀ text ∈ x.octetTexts, '.' ∉ text := by
    intro text htext hdot
    cases isDigit_of_mem_octetTexts htext hdot
  have hsplit : x.render.toList.splitOn '.' = x.octetTexts := by
    rw [toList_render]
    exact List.splitOn_intercalate '.' hdot (List.cons_ne_nil _ _)
  simp [parseChars?, hsplit, octetTexts, octets, octet?_toDigits]

theorem parse?_render (x : IPv4) : parse? x.render = some x := parseChars?_render x

theorem render_inj {x y : IPv4} : x.render = y.render ↔ x = y := eq_iff_of_read parse?_render

theorem isDigit_of_octet? {cs : List Char} {o : UInt8} (h : octet? cs = some o) {c : Char} (hc : c ∈ cs) :
    c.isDigit = true := by
  unfold octet? at h
  split at h
  · rename_i hread
    exact List.all_eq_true.mp hread.2.2.1 c hc
  · cases h

theorem eq_dot_or_isDigit {cs : List Char} {x : IPv4} (h : parseChars? cs = some x) {c : Char} (hmem : c ∈ cs) :
    c = '.' ∨ c.isDigit = true := by
  unfold parseChars? at h
  split at h
  · rename_i a b c d hsplit
    simp only [Option.bind_eq_bind, Option.bind_eq_some_iff] at h
    obtain ⟨_, ha, _, hb, _, hc, _, hd, -⟩ := h
    have hwhole : ['.'].intercalate (cs.splitOn '.') = cs := List.intercalate_splitOn '.'
    rw [← hwhole, hsplit] at hmem
    rcases Lists.mem_of_mem_intercalate hmem with hdot | ⟨text, htext, hdigit⟩
    · exact .inl (List.mem_singleton.mp hdot)
    · simp only [List.mem_cons, List.not_mem_nil, or_false] at htext
      rcases htext with rfl | rfl | rfl | rfl
      · exact .inr (isDigit_of_octet? ha hdigit)
      · exact .inr (isDigit_of_octet? hb hdigit)
      · exact .inr (isDigit_of_octet? hc hdigit)
      · exact .inr (isDigit_of_octet? hd hdigit)
  · cases h

theorem notMem_colon_of_parseChars? {cs : List Char} {x : IPv4} (h : parseChars? cs = some x) :
    ':' ∉ cs := by
  intro hcolon
  rcases eq_dot_or_isDigit h hcolon with h | h <;> cases h

end IPv4

/-! ## IPv6 -/

namespace IPv6

/-! ### Groups -/

theorem hexDigit?_digitChar : ∀ d < 16, hexDigit? (Nat.digitChar d) = some d := by decide

theorem mapM_hexDigit?_toDigits (n : Nat) : ∃ ds, (Nat.toDigits 16 n).mapM hexDigit? = some ds ∧
    ds.foldl (fun n d => 16 * n + d) 0 = n := by
  induction n using Nat.strongRecOn with
  | ind n ih =>
    by_cases hlt : n < 16
    · refine ⟨[n], ?_, by simp⟩
      rw [Nat.toDigits_of_lt_base hlt]
      simp [hexDigit?_digitChar n hlt]
    · obtain ⟨ds, hds, hvalue⟩ := ih (n / 16) (by omega)
      have hlast := hexDigit?_digitChar (n % 16) (Nat.mod_lt n (by decide))
      refine ⟨ds ++ [n % 16], ?_, ?_⟩
      · rw [Nat.toDigits_of_base_le (by decide) (by omega), List.mapM_append, hds]
        simp [hlast]
      · rw [List.foldl_append, hvalue]
        exact Nat.div_add_mod n 16

def groupText (g : UInt16) : List Char := Nat.toDigits 16 g.toNat

theorem groupText_ne_nil (g : UInt16) : groupText g ≠ [] := Nat.toDigits_ne_nil

theorem group?_groupText (g : UInt16) : group? (groupText g) = some g := by
  have hlt : g.toNat < 65536 := g.toNat_lt
  have hlength : (groupText g).length ≤ 4 :=
    (Nat.length_toDigits_le_iff (by decide) (by decide)).mpr (by omega)
  obtain ⟨ds, hds, hvalue⟩ := mapM_hexDigit?_toDigits g.toNat
  rw [group?, if_pos ⟨groupText_ne_nil g, hlength⟩, groupText, hds, Option.map_some, hvalue,
    UInt16.ofNat_toNat]

theorem toList_renderGroups (gs : List UInt16) :
    (renderGroups gs).toList = [':'].intercalate (gs.map groupText) := by
  have htexts : (gs.map renderGroup).map String.toList = gs.map groupText := by
    rw [List.map_map]
    exact List.map_congr_left fun g _ => String.toList_ofList
  rw [renderGroups, String.toList_intercalate, htexts]
  rfl

theorem mem_groupText {g : UInt16} {c : Char} (hc : c ∈ groupText g) :
    c ∈ "0123456789abcdef".toList := by
  have hdigit : ∀ d < 16, Nat.digitChar d ∈ "0123456789abcdef".toList := by decide
  obtain ⟨d, hd, rfl⟩ := Decimal.exists_digit_of_mem_toDigits (by decide) hc
  exact hdigit d hd

theorem notMem_colon_groupText (g : UInt16) : ':' ∉ groupText g := by
  intro hcolon
  exact absurd (mem_groupText hcolon) (by decide)

theorem groupsOf?_groupTexts (gs : List UInt16) : groupsOf? (gs.map groupText) = some gs := by
  induction gs with
  | nil => rfl
  | cons g rest ih =>
    cases rest with
    | nil => simp [groupsOf?, group?_groupText]
    | cons next rest =>
      rw [List.map_cons, List.map_cons, groupsOf?, group?_groupText, ← List.map_cons, ih]
      · rfl
      · simp

theorem groups?_renderGroups (gs : List UInt16) : groups? (renderGroups gs).toList = some gs := by
  rw [toList_renderGroups]
  cases gs with
  | nil => rfl
  | cons g rest =>
    have hcolon : ∀ text ∈ (g :: rest).map groupText, ':' ∉ text := by
      intro text htext
      obtain ⟨g, -, rfl⟩ := List.mem_map.mp htext
      exact notMem_colon_groupText g
    have hne : [':'].intercalate ((g :: rest).map groupText) ≠ [] := by
      cases rest with
      | nil =>
        rw [List.map_singleton, List.intercalate_singleton]
        exact groupText_ne_nil g
      | cons next rest => simp [List.intercalate_cons_cons]
    rw [groups?, if_neg hne, List.splitOn_intercalate ':' hcolon (by simp), groupsOf?_groupTexts]

/-! ### The gap -/

theorem splitGap_cons {c : Char} {cs : List Char} (h : c = ':' → cs.head? ≠ some ':') :
    splitGap (c :: cs) = (splitGap cs).map fun (before, after) => (c :: before, after) := by
  rw [splitGap]
  rintro rest rfl rfl
  exact h rfl rfl

theorem splitGap_append {text : List Char} (h : ':' ∉ text) (rest : List Char) :
    splitGap (text ++ rest) = (splitGap rest).map fun (before, after) => (text ++ before, after) := by
  induction text with
  | nil => simp
  | cons c cs ih =>
    rw [List.mem_cons, not_or] at h
    rw [List.cons_append, splitGap_cons fun hc => absurd hc.symm h.1, ih h.2, Option.map_map]
    rfl

theorem splitGap_renderGroups (gs : List UInt16) (rest : List Char) :
    splitGap ((renderGroups gs).toList ++ rest) =
      (splitGap rest).map fun (before, after) => ((renderGroups gs).toList ++ before, after) := by
  rw [toList_renderGroups]
  induction gs with
  | nil => simp
  | cons g later ih =>
    cases later with
    | nil =>
      rw [List.map_singleton, List.intercalate_singleton]
      exact splitGap_append (notMem_colon_groupText g) rest
    | cons next later =>
      -- A digit of the next group stands behind the colon, so that no gap begins there.
      have hfirst : ([':'].intercalate ((next :: later).map groupText) ++ rest).head? ≠ some ':' := by
        obtain ⟨c, cs, hcons⟩ := List.exists_cons_of_ne_nil (groupText_ne_nil next)
        have hc : c ≠ ':' := by
          rintro rfl
          exact notMem_colon_groupText next (hcons ▸ List.mem_cons_self)
        cases later <;> simpa [List.intercalate_cons_cons, hcons] using hc
      rw [List.map_cons, List.map_cons, List.intercalate_cons_cons, List.append_assoc, List.append_assoc,
        splitGap_append (notMem_colon_groupText g), List.singleton_append, ← List.map_cons,
        splitGap_cons fun _ => hfirst, ih, Option.map_map, Option.map_map]
      congr 1
      funext ⟨before, after⟩
      simp

theorem eq_replicate_append_drop {gs : List UInt16} {n : Nat} (h : n ≤ leadingZeros gs) :
    gs = List.replicate n 0 ++ gs.drop n := by
  induction n generalizing gs with
  | zero => rfl
  | succ n ih =>
    cases gs with
    | nil => cases h
    | cons g rest =>
      by_cases hg : g = 0
      · subst hg
        have hrest : n ≤ leadingZeros rest := by simpa [leadingZeros] using h
        rw [List.replicate_succ, List.cons_append, List.drop_succ_cons, ← ih hrest]
      · simp [leadingZeros, hg] at h

theorem longestGap_le (gs : List UInt16) :
    (longestGap gs).2 ≤ leadingZeros (gs.drop (longestGap gs).1) := by
  refine List.foldlRecOn (motive := fun best : Nat × Nat => best.2 ≤ leadingZeros (gs.drop best.1)) _ _ ?_ ?_
  · exact Nat.zero_le _
  · intro best hbest i _
    split
    · exact Nat.le_refl _
    · exact hbest

/-! ### Whole addresses -/

theorem ofGroups?_groups (x : IPv6) : ofGroups? x.groups.toList = some x := by
  obtain ⟨⟨⟨gs⟩, hlength⟩⟩ := x
  have hgs : gs.length = 8 := hlength
  simp [ofGroups?, hgs]

theorem notMem_dot_renderGroups (gs : List UInt16) : '.' ∉ (renderGroups gs).toList := by
  intro hdot
  rw [toList_renderGroups] at hdot
  rcases Lists.mem_of_mem_intercalate hdot with hdot | ⟨text, htext, hdot⟩
  · cases List.mem_singleton.mp hdot
  · obtain ⟨g, -, rfl⟩ := List.mem_map.mp htext
    exact absurd (mem_groupText hdot) (by decide)

theorem groups_eq_around_run {gs : List UInt16} {start length : Nat}
    (h : length ≤ leadingZeros (gs.drop start)) :
    gs = gs.take start ++ List.replicate length 0 ++ gs.drop (start + length) := by
  rw [← List.drop_drop, List.append_assoc, ← eq_replicate_append_drop h, List.take_append_drop]

theorem run_fits {gs : List UInt16} {start length : Nat} (h : length ≤ leadingZeros (gs.drop start))
    (hpos : 0 < length) : start + length ≤ gs.length := by
  have hle : leadingZeros (gs.drop start) ≤ (gs.drop start).length :=
    (List.takeWhile_sublist _).length_le
  rw [List.length_drop] at hle
  omega

theorem parseChars?_gap {x : IPv6} {start length : Nat}
    (h : length ≤ leadingZeros (x.groups.toList.drop start)) (hpos : 0 < length) :
    parseChars? (renderGroups (x.groups.toList.take start) ++ "::" ++
      renderGroups (x.groups.toList.drop (start + length))).toList = some x := by
  have hlength : x.groups.toList.length = 8 := by simp
  have hfits := run_fits h hpos
  rw [hlength] at hfits
  have hleft : (x.groups.toList.take start).length = start := by
    rw [List.length_take, hlength]
    omega
  have hright : (x.groups.toList.drop (start + length)).length = 8 - (start + length) := by
    rw [List.length_drop, hlength]
  have hmissing : 8 - (start + (8 - (start + length))) = length := by omega
  have hsplit : splitGap (renderGroups (x.groups.toList.take start) ++ "::" ++
      renderGroups (x.groups.toList.drop (start + length))).toList =
        some ((renderGroups (x.groups.toList.take start)).toList,
          (renderGroups (x.groups.toList.drop (start + length))).toList) := by
    rw [String.toList_append, String.toList_append, List.append_assoc, splitGap_renderGroups]
    simp [splitGap]
  simp only [parseChars?, hsplit, groups?_renderGroups, Option.bind_eq_bind, Option.bind_some, hleft,
    hright, hmissing, ← groups_eq_around_run h, ofGroups?_groups]
  rw [if_neg]
  rintro (hdot | hmany)
  · exact notMem_dot_renderGroups _ hdot
  · omega

theorem parseChars?_renderCompressed (x : IPv6) : parseChars? x.renderCompressed.toList = some x := by
  have hrun := longestGap_le x.groups.toList
  rw [renderCompressed]
  -- Any run of zeros may be left out: that it is the longest does not matter to the reader.
  generalize longestGap x.groups.toList = gap at hrun
  obtain ⟨start, length⟩ := gap
  simp only at hrun ⊢
  split
  · exact parseChars?_gap hrun (by omega)
  · have hsplit := splitGap_renderGroups x.groups.toList []
    rw [List.append_nil] at hsplit
    simp [parseChars?, hsplit, splitGap, groups?_renderGroups, ofGroups?_groups]

/-! ### Addresses that stand for IPv4 addresses -/

theorem high_or_low (g : UInt16) : (g >>> 8).toUInt8.toUInt16 <<< 8 ||| g.toUInt8.toUInt16 = g := by
  have hlt : g.toNat < 65536 := g.toNat_lt
  have hlow : g.toNat % 256 < 2 ^ 8 := Nat.mod_lt _ (by decide)
  have hhigh : g.toNat >>> 8 = g.toNat / 256 := Nat.shiftRight_eq_div_pow _ 8
  have hsum : (g.toNat / 256) <<< 8 ||| g.toNat % 256 = g.toNat := by
    rw [← Nat.shiftLeft_add_eq_or_of_lt hlow, Nat.shiftLeft_eq]
    omega
  have hshifted : (g.toNat / 256) <<< 8 < 65536 := by
    rw [Nat.shiftLeft_eq]
    omega
  apply UInt16.toNat_inj.mp
  simp only [UInt16.toNat_or, UInt16.toNat_shiftLeft, UInt8.toNat_toUInt16, UInt16.toNat_toUInt8,
    UInt16.toNat_shiftRight, UInt16.reduceToNat, Nat.reduceMod, hhigh]
  rw [Nat.mod_eq_of_lt (by omega : g.toNat / 256 < 2 ^ 8), Nat.mod_eq_of_lt hshifted, hsum]

theorem toList_groups_of_mapped? {x : IPv6} {y : IPv4} (h : x.mapped? = some y) :
    x.groups.toList = [0, 0, 0, 0, 0, 0xFFFF] ++ y.toGroups := by
  unfold mapped? at h
  split at h
  · rename_i high low hgroups
    obtain rfl := Option.some.inj h
    rw [hgroups, IPv4.toGroups, high_or_low, high_or_low]
    rfl
  · cases h

theorem length_render (y : IPv4) : 4 < y.render.toList.length := by
  have htext : y.render.toList = ['.'].intercalate y.octetTexts := IPv4.toList_render y
  simp only [IPv4.octetTexts, IPv4.octets, List.map_cons, List.map_nil, List.intercalate_cons_cons,
    List.intercalate_singleton] at htext
  have hpos : ∀ o : UInt8, 0 < (Nat.toDigits 10 o.toNat).length := fun o =>
    List.length_pos_iff.mpr Nat.toDigits_ne_nil
  have ha := hpos y.a
  have hb := hpos y.b
  rw [htext]
  simp only [List.length_append, List.length_singleton]
  omega

theorem groups?_mapped (y : IPv4) :
    groups? (['f', 'f', 'f', 'f'] ++ ':' :: y.render.toList) = some (0xFFFF :: y.toGroups) := by
  have hcolon : ∀ text ∈ [['f', 'f', 'f', 'f'], y.render.toList], ':' ∉ text := by
    intro text htext
    rcases List.mem_cons.mp htext with rfl | htext
    · decide
    · obtain rfl := List.mem_singleton.mp htext
      exact IPv4.notMem_colon_of_parseChars? (IPv4.parseChars?_render y)
  have hsplit := List.splitOn_intercalate ':' hcolon (List.cons_ne_nil _ _)
  rw [List.intercalate_cons_cons, List.intercalate_singleton, List.append_assoc,
    List.singleton_append] at hsplit
  have hffff : group? ['f', 'f', 'f', 'f'] = some 0xFFFF := rfl
  -- The last piece is too long for a group: it is read as an IPv4 address.
  have hlast : group? y.render.toList = none := by
    rw [group?, if_neg]
    have := length_render y
    omega
  rw [groups?, if_neg (by simp), hsplit]
  simp only [groupsOf?, hffff, hlast, IPv4.parseChars?_render]
  rfl

theorem parseChars?_mapped {x : IPv6} {y : IPv4} (h : x.mapped? = some y) :
    parseChars? ("::ffff:" ++ y.render).toList = some x := by
  have htext : ("::ffff:" ++ y.render).toList =
      ':' :: ':' :: (['f', 'f', 'f', 'f'] ++ ':' :: y.render.toList) := by
    rw [String.toList_append]
    rfl
  have hafter := groups?_mapped y
  generalize ['f', 'f', 'f', 'f'] ++ ':' :: y.render.toList = after at htext hafter
  have hsplit : splitGap (':' :: ':' :: after) = some ([], after) := by rw [splitGap]
  have hwhole : ofGroups? (List.replicate 5 0 ++ 0xFFFF :: y.toGroups) = some x := by
    rw [← ofGroups?_groups x, toList_groups_of_mapped? h]
    rfl
  have hnone : groups? [] = some [] := rfl
  have hlength : y.toGroups.length = 2 := rfl
  simp only [htext, parseChars?, hsplit, hafter, hnone, Option.bind_eq_bind, Option.bind_some,
    List.length_nil, List.length_cons, hlength]
  exact hwhole

theorem parseChars?_render (x : IPv6) : parseChars? x.render.toList = some x := by
  rw [render]
  split
  · rename_i y hmapped
    exact parseChars?_mapped hmapped
  · exact parseChars?_renderCompressed x

theorem colon_mem_render (x : IPv6) : ':' ∈ x.render.toList := by
  rw [render]
  split
  · rw [String.toList_append]
    exact List.mem_append_left _ (by decide)
  · simp only [renderCompressed]
    split
    · simp [String.toList_append]
    · obtain ⟨⟨⟨gs⟩, hlength⟩⟩ := x
      match gs, hlength with
      | g :: next :: rest, _ =>
        rw [toList_renderGroups]
        change ':' ∈ [':'].intercalate (groupText g :: groupText next :: rest.map groupText)
        simp [List.intercalate_cons_cons]

theorem mem_renderGroups {gs : List UInt16} {c : Char} (hc : c ∈ (renderGroups gs).toList) :
    c ∈ Address.alphabet := by
  rw [toList_renderGroups] at hc
  rcases Lists.mem_of_mem_intercalate hc with hcolon | ⟨text, htext, hc⟩
  · rw [List.mem_singleton.mp hcolon]
    decide
  · obtain ⟨g, -, rfl⟩ := List.mem_map.mp htext
    exact Address.mem_alphabet_of_mem_toDigits (by decide) (by decide) hc

theorem mem_renderCompressed {x : IPv6} {c : Char} (hc : c ∈ x.renderCompressed.toList) :
    c ∈ Address.alphabet := by
  simp only [renderCompressed] at hc
  split at hc
  · simp only [String.toList_append, List.mem_append] at hc
    rcases hc with (hc | hc) | hc
    · exact mem_renderGroups hc
    · have hgap : "::".toList ⊆ Address.alphabet := by decide
      exact hgap hc
    · exact mem_renderGroups hc
  · exact mem_renderGroups hc

theorem mem_render {x : IPv6} {c : Char} (hc : c ∈ x.render.toList) : c ∈ Address.alphabet := by
  rw [render] at hc
  split at hc
  · rw [String.toList_append, List.mem_append] at hc
    rcases hc with hc | hc
    · have hprefix : "::ffff:".toList ⊆ Address.alphabet := by decide
      exact hprefix hc
    · exact IPv4.mem_render hc
  · exact mem_renderCompressed hc

end IPv6

/-! ## Either version -/

namespace Address

theorem parse?_render (a : Address) : parse? a.render = some a := by
  cases a with
  | v4 x =>
    rw [render, parse?, parseChars?, IPv4.parseChars?_render]
    rfl
  | v6 x =>
    have hnone : IPv4.parseChars? x.render.toList = none := by
      rw [Option.eq_none_iff_forall_ne_some]
      exact fun y hy => IPv4.notMem_colon_of_parseChars? hy x.colon_mem_render
    rw [render, parse?, parseChars?, hnone, IPv6.parseChars?_render]
    rfl

theorem mem_render {a : Address} {c : Char} (hc : c ∈ a.render.toList) : c ∈ alphabet := by
  cases a with
  | v4 x => exact IPv4.mem_render hc
  | v6 x => exact IPv6.mem_render hc

theorem render_ne_empty (a : Address) : a.render ≠ "" := by
  intro hempty
  have hread := parse?_render a
  rw [hempty] at hread
  cases hread

theorem render_inj {a b : Address} : a.render = b.render ↔ a = b := eq_iff_of_read parse?_render

end Address

end RouteServer
