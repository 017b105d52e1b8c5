import Mathlib.Data.Bool.AllAny
import Mathlib.Data.List.TakeWhile
import RouteServer.Endpoint.Url
import RouteServer.Proofs.Lists

/-! # Paths in URLs

A URL writes some characters of a path by their bytes, and follows its dots. The path that comes out is in normal
form: it is left alone when it is read again.
-/

namespace RouteServer

namespace Url

/-! ## Percent encoding -/

/-- The characters that a byte is written with. -/
def escapeAlphabet : List Char := "%0123456789ABCDEF".toList

section Encoding

variable {inSet : Char → Bool} {cs : List Char} {c : Char}

theorem mem_encodeByte {b : UInt8} (hc : c ∈ encodeByte b) : c ∈ escapeAlphabet := by
  have hdigit : ∀ n < 16, upperHex n ∈ escapeAlphabet := by decide
  have hlow : b.toNat % 16 < 16 := Nat.mod_lt _ (by decide)
  have hhigh : b.toNat / 16 < 16 := by
    have hb := b.toNat_lt
    omega
  simp only [encodeByte, List.mem_cons, List.not_mem_nil, or_false] at hc
  rcases hc with rfl | rfl | rfl
  · decide
  · exact hdigit _ hhigh
  · exact hdigit _ hlow

theorem mem_percentEncode (hc : c ∈ percentEncode inSet cs) : c ∈ cs ∧ inSet c = false ∨ c ∈ escapeAlphabet := by
  obtain ⟨d, hd, hc⟩ := List.mem_flatMap.mp hc
  unfold encodeChar at hc
  split at hc
  · obtain ⟨b, -, hc⟩ := List.mem_flatMap.mp hc
    exact .inr (mem_encodeByte hc)
  · rename_i hset
    obtain rfl := List.mem_singleton.mp hc
    exact .inl ⟨hd, Bool.eq_false_iff.mpr hset⟩

theorem percentEncode_eq_self (h : ∀ c ∈ cs, inSet c = false) : percentEncode inSet cs = cs := by
  induction cs with
  | nil => rfl
  | cons c rest ih =>
    have hc : encodeChar inSet c = [c] := by simp [encodeChar, h c List.mem_cons_self]
    have hrest := ih fun d hd => h d (List.mem_cons_of_mem c hd)
    rw [percentEncode] at hrest ⊢
    rw [List.flatMap_cons, hc, hrest]
    rfl

theorem isPathEncoded_escape : ∀ c ∈ escapeAlphabet, isPathEncoded c = false ∧ c ≠ '/' :=
  List.all_iff_forall_prop.mp rfl

theorem isPathEncoded_of_mem_percentEncode (hc : c ∈ percentEncode isPathEncoded cs) :
    isPathEncoded c = false := by
  rcases mem_percentEncode hc with ⟨-, hkept⟩ | hescape
  · exact hkept
  · exact (isPathEncoded_escape c hescape).1

theorem slash_notMem_percentEncode (h : '/' ∉ cs) : '/' ∉ percentEncode inSet cs := by
  intro hslash
  rcases mem_percentEncode hslash with ⟨hmem, -⟩ | hescape
  · exact h hmem
  · exact (isPathEncoded_escape _ hescape).2 rfl

theorem visible_of_not_control (hcontrol : isControl c = false) (hblank : c ≠ ' ') : ' ' < c := by
  simp only [isControl, Bool.or_eq_false_iff, decide_eq_false_iff_not, Nat.not_lt] at hcontrol
  rw [Char.lt_def, UInt32.lt_iff_toNat_lt]
  exact Nat.lt_of_le_of_ne hcontrol.1 fun heq => hblank (Char.toNat_inj.mp heq).symm

theorem visible_of_plain (h : isPathEncoded c = false) : ' ' < c := by
  simp only [isPathEncoded, Bool.or_eq_false_iff, decide_eq_false_iff_not, List.mem_cons, not_or] at h
  exact visible_of_not_control h.1 h.2.1

end Encoding

/-! ## Following dots -/

section Following

variable {segment : List Char} {done segments : List (List Char)}

theorem mem_goUp (h : segment ∈ goUp done) : segment ∈ done := by
  cases done with
  | nil => exact h
  | cons last before =>
    rw [goUp] at h
    split at h
    · exact h
    · exact List.mem_cons_of_mem last h

theorem forall_followSegments {P : List Char → Prop} (hnil : P []) (hdone : ∀ s ∈ done, P s)
    (hsegments : ∀ s ∈ segments, isUp s = false → isHere s = false → P s) :
    ∀ s ∈ followSegments done segments, P s := by
  fun_induction followSegments done segments with
  | case1 => exact hdone
  | case2 done last hup => exact List.forall_mem_cons.mpr ⟨hnil, fun s hs => hdone s (mem_goUp hs)⟩
  | case3 => exact List.forall_mem_cons.mpr ⟨hnil, hdone⟩
  | case4 done last hup hhere =>
    have hlast := hsegments last List.mem_cons_self (by simpa using hup) (by simpa using hhere)
    exact List.forall_mem_cons.mpr ⟨hlast, hdone⟩
  | case5 done first rest _ hup ih =>
    exact ih (fun s hs => hdone s (mem_goUp hs)) fun s hs => hsegments s (List.mem_cons_of_mem first hs)
  | case6 done first rest _ hup hhere ih =>
    exact ih hdone fun s hs => hsegments s (List.mem_cons_of_mem first hs)
  | case7 done first rest _ hup hhere ih =>
    have hfirst := hsegments first List.mem_cons_self (by simpa using hup) (by simpa using hhere)
    exact ih (List.forall_mem_cons.mpr ⟨hfirst, hdone⟩) fun s hs => hsegments s (List.mem_cons_of_mem first hs)

theorem followSegments_of_plain (h : ∀ s ∈ segments, isUp s = false ∧ isHere s = false) :
    followSegments done segments = segments.reverse ++ done := by
  fun_induction followSegments done segments with
  | case1 => rfl
  | case2 _ last hup => simp [(h last List.mem_cons_self).1] at hup
  | case3 _ last _ hhere => simp [(h last List.mem_cons_self).2] at hhere
  | case4 => rfl
  | case5 _ first _ _ hup => simp [(h first List.mem_cons_self).1] at hup
  | case6 _ first _ _ _ hhere => simp [(h first List.mem_cons_self).2] at hhere
  | case7 done first rest _ _ _ ih =>
    rw [ih fun s hs => h s (List.mem_cons_of_mem first hs), List.reverse_cons, List.append_assoc]
    rfl

theorem followSegments_ne_nil (h : segments ≠ []) : followSegments done segments ≠ [] := by
  fun_induction followSegments done segments with
  | case1 => exact absurd rfl h
  | case2 | case3 | case4 => exact List.cons_ne_nil _ _
  | case5 _ _ _ hrest _ ih | case6 _ _ _ hrest _ _ ih | case7 _ _ _ hrest _ _ ih =>
    exact ih hrest

end Following

/-! ## Normal paths -/

/-- A segment that stays as it is. -/
structure IsSegment (segment : List Char) : Prop where
  plain : ∀ c ∈ segment, isPathEncoded c = false
  unbroken : '/' ∉ segment
  notUp : isUp segment = false
  notHere : isHere segment = false

theorem isSegment_nil : IsSegment [] := ⟨List.forall_mem_nil _, List.not_mem_nil, rfl, rfl⟩

/-- Segments that stay as they are, each behind a slash. -/
def IsPath (cs : List Char) : Prop :=
  ∃ segments, segments ≠ [] ∧ (∀ s ∈ segments, IsSegment s) ∧ cs = '/' :: ['/'].intercalate segments

variable {cs : List Char} {segments : List (List Char)}

theorem flatMap_slash (h : segments ≠ []) : segments.flatMap ('/' :: ·) = '/' :: ['/'].intercalate segments := by
  cases segments with
  | nil => exact absurd rfl h
  | cons first rest =>
    rw [Lists.intercalate_cons_eq]
    rfl

/-- The segments of a path before its dots are followed. -/
def writtenSegments (cs : List Char) : List (List Char) :=
  ((cs.takeWhile (!endsPath ·)).splitOn '/').map (percentEncode isPathEncoded)

def pathSegments (cs : List Char) : List (List Char) := (followSegments [] (writtenSegments cs)).reverse

theorem pathSegments_ne_nil (cs : List Char) : pathSegments cs ≠ [] := by
  have hne : writtenSegments cs ≠ [] := by
    rw [writtenSegments, ne_eq, List.map_eq_nil_iff]
    exact List.splitOn_ne_nil _ _
  exact List.reverse_ne_nil_iff.mpr (followSegments_ne_nil hne)

theorem readPath_eq (cs : List Char) : readPath false cs = '/' :: ['/'].intercalate (pathSegments cs) := by
  have hslash : (fun c => decide (c = '/') || (false && decide (c = '\\'))) = (· == '/') := by
    funext c
    rw [Bool.false_and, Bool.or_false]
    rfl
  rw [← flatMap_slash (pathSegments_ne_nil cs), readPath, hslash]
  rfl

theorem isSegment_of_mem_pathSegments {segment : List Char} (h : segment ∈ pathSegments cs) :
    IsSegment segment := by
  refine forall_followSegments isSegment_nil (List.forall_mem_nil _) ?_ segment (List.mem_reverse.mp h)
  intro written hwritten hup hhere
  obtain ⟨raw, hraw, rfl⟩ := List.mem_map.mp hwritten
  exact {
    plain := fun c hc => isPathEncoded_of_mem_percentEncode hc
    unbroken := slash_notMem_percentEncode (Lists.notMem_of_mem_splitOn hraw)
    notUp := hup
    notHere := hhere }

theorem isPath_readPath (cs : List Char) : IsPath (readPath false cs) :=
  ⟨pathSegments cs, pathSegments_ne_nil cs, fun _ => isSegment_of_mem_pathSegments, readPath_eq cs⟩

theorem writtenSegments_of_plain (h : ∀ c ∈ cs, isPathEncoded c = false) :
    writtenSegments cs = cs.splitOn '/' := by
  have hends : ∀ c ∈ cs, (!endsPath c) = true := by
    intro c hc
    have hplain := h c hc
    simp only [isPathEncoded, Bool.or_eq_false_iff] at hplain
    simp_all [endsPath]
  have hsegments : ∀ s ∈ cs.splitOn '/', percentEncode isPathEncoded s = s := by
    intro s hs
    exact percentEncode_eq_self fun c hc => h c (Lists.mem_of_mem_splitOn hs hc)
  rw [writtenSegments, List.takeWhile_eq_self_iff.mpr hends, List.map_congr_left hsegments, List.map_id']

theorem splitOn_isPath (hne : segments ≠ []) (h : ∀ s ∈ segments, IsSegment s) :
    (['/'].intercalate segments).splitOn '/' = segments :=
  List.splitOn_intercalate '/' (fun s hs => (h s hs).unbroken) hne

theorem plain_intercalate (h : ∀ s ∈ segments, IsSegment s) :
    ∀ c ∈ ['/'].intercalate segments, isPathEncoded c = false := by
  intro c hc
  rcases Lists.mem_of_mem_intercalate hc with hslash | ⟨s, hs, hc⟩
  · obtain rfl := List.mem_singleton.mp hslash
    rfl
  · exact (h s hs).plain c hc

theorem IsPath.exists_cons (h : IsPath cs) : ∃ rest, cs = '/' :: rest := by
  obtain ⟨segments, -, -, hcs⟩ := h
  exact ⟨_, hcs⟩

theorem IsPath.plain (h : IsPath cs) : ∀ c ∈ cs, isPathEncoded c = false := by
  obtain ⟨segments, -, hsegments, rfl⟩ := h
  exact List.forall_mem_cons.mpr ⟨rfl, plain_intercalate hsegments⟩

theorem IsPath.readPath_eq (h : IsPath ('/' :: cs)) : readPath false cs = '/' :: cs := by
  obtain ⟨segments, hne, hsegments, hcs⟩ := h
  obtain rfl := List.tail_eq_of_cons_eq hcs
  rw [Url.readPath_eq, pathSegments, writtenSegments_of_plain (plain_intercalate hsegments),
    splitOn_isPath hne hsegments,
    followSegments_of_plain fun s hs => ⟨(hsegments s hs).notUp, (hsegments s hs).notHere⟩,
    List.append_nil, List.reverse_reverse]

end Url

end RouteServer
