import RouteServer.Files.Path
import RouteServer.Proofs.Endpoint.Path

/-! # Paths of files in URLs

A path of a file that is read as that of a URL comes out as the same path only if the URL leaves its segments
alone. Empty segments and single dots do no harm, as they lead nowhere.
-/

namespace RouteServer

/-! ## Paths of files -/

namespace Path

/-- Whether a segment leads anywhere: it is not empty and not a dot. -/
def leadsOn (segment : List Char) : Bool := segment ≠ [] ∧ segment ≠ ['.']

def steps (path : String) : List (List Char) := (path.toList.splitOn '/').filter leadsOn

/-- Two paths lead from the same place through the same segments, wherever slashes are doubled and dots put in. -/
structure Same (a b : String) : Prop where
  start : start a.toList = start b.toList
  steps : steps a = steps b

@[refl] theorem Same.refl (path : String) : Same path path := ⟨rfl, rfl⟩

theorem start_eq_slash_iff {cs : List Char} : start cs = ['/'] ↔ cs.head? = some '/' := by
  unfold start
  split
  · simp
  · simp
  · simp
  · rename_i hslash _ _
    cases cs with
    | nil => simp
    | cons c rest =>
      have hc : c ≠ '/' := by
        rintro rfl
        exact hslash rest rfl
      simpa using hc

end Path

/-! ## Single dots -/

section Following

variable {done segments : List (List Char)}

theorem Url.filter_followSegments
    (h : ∀ s ∈ segments, Url.isUp s = false ∧ (Url.isHere s = true → s = ['.'])) :
    (Url.followSegments done segments).reverse.filter Path.leadsOn =
      done.reverse.filter Path.leadsOn ++ segments.filter Path.leadsOn := by
  fun_induction Url.followSegments done segments with
  | case1 => simp
  | case2 _ last hup => simp [(h last List.mem_cons_self).1] at hup
  | case3 _ last _ hhere =>
    rw [(h last List.mem_cons_self).2 hhere]
    simp [Path.leadsOn]
  | case4 _ last => simp [List.filter_append]
  | case5 _ first _ _ hup => simp [(h first List.mem_cons_self).1] at hup
  | case6 done first rest _ _ hhere ih =>
    have hdot := (h first List.mem_cons_self).2 hhere
    rw [ih fun s hs => h s (List.mem_cons_of_mem first hs), hdot]
    rfl
  | case7 done first rest _ _ _ ih =>
    rw [ih fun s hs => h s (List.mem_cons_of_mem first hs), List.reverse_cons, List.filter_append,
      List.append_assoc, ← List.filter_append]
    rfl

end Following

/-! ## Paths of files in URLs -/

/-- A path that is the same path in a URL. -/
structure Path.FitsUrl (path : String) : Prop where
  absolute : isAbsolute path = true
  segments : ∀ s ∈ path.toList.splitOn '/', Url.IsSegment s ∨ s = ['.']

namespace Path

theorem steps_of_slash {path : String} {cs : List Char} (h : path.toList = '/' :: cs) :
    steps path = (cs.splitOn '/').filter leadsOn := by
  rw [steps, h, List.splitOn_cons_eq_if_modifyHead]
  rfl

theorem FitsUrl.plain {path : String} (h : FitsUrl path) : ∀ c ∈ path.toList, Url.isPathEncoded c = false := by
  have hjoined : ['/'].intercalate (path.toList.splitOn '/') = path.toList := List.intercalate_splitOn '/'
  rw [← hjoined]
  intro c hc
  rcases Lists.mem_of_mem_intercalate hc with hslash | ⟨s, hs, hc⟩
  · obtain rfl := List.mem_singleton.mp hslash
    rfl
  · rcases h.segments s hs with hsegment | rfl
    · exact hsegment.plain c hc
    · obtain rfl := List.mem_singleton.mp hc
      rfl

theorem FitsUrl.same {path : String} (h : FitsUrl path) {cs : List Char} (hcs : path.toList = '/' :: cs) :
    Same (.ofList (Url.readPath false cs)) path := by
  have hwritten : Url.writtenSegments cs = cs.splitOn '/' :=
    Url.writtenSegments_of_plain fun c hc => h.plain c (hcs ▸ List.mem_cons_of_mem _ hc)
  have hdots : ∀ s ∈ cs.splitOn '/', Url.isUp s = false ∧ (Url.isHere s = true → s = ['.']) := by
    intro s hs
    have hmem : s ∈ path.toList.splitOn '/' := by
      rw [hcs, List.splitOn_cons_eq_if_modifyHead]
      exact List.mem_cons_of_mem _ hs
    rcases h.segments s hmem with hsegment | rfl
    · exact ⟨hsegment.notUp, fun hhere => absurd hhere (by simp [hsegment.notHere])⟩
    · exact ⟨rfl, fun _ => rfl⟩
  have hread := Url.readPath_eq cs
  constructor
  · rw [String.toList_ofList, hread, hcs]
    rfl
  · rw [steps_of_slash hcs, steps_of_slash (String.toList_ofList.trans hread),
      Url.splitOn_isPath (Url.pathSegments_ne_nil cs) fun _ => Url.isSegment_of_mem_pathSegments,
      Url.pathSegments, hwritten]
    exact Url.filter_followSegments hdots

/-- Only a path that fits is the same as one in normal form. -/
theorem fitsUrl_of_same {path normal : String} (hnormal : Url.IsPath normal.toList) (h : Same normal path) :
    FitsUrl path := by
  obtain ⟨segments, hne, hsegments, hcs⟩ := hnormal
  obtain ⟨hstart, hsteps⟩ := h
  rw [hcs] at hstart
  have habsolute : path.toList.head? = some '/' := start_eq_slash_iff.mp hstart.symm
  refine ⟨decide_eq_true habsolute, fun s hs => ?_⟩
  by_cases hdot : s = ['.']
  · exact .inr hdot
  by_cases hnil : s = []
  · exact .inl (hnil ▸ Url.isSegment_nil)
  have hstep : s ∈ steps path := List.mem_filter.mpr ⟨hs, by simp [leadsOn, hdot, hnil]⟩
  rw [← hsteps, steps_of_slash hcs, Url.splitOn_isPath hne hsegments] at hstep
  exact .inl (hsegments s (List.mem_filter.mp hstep).1)

/-! ## Names in directories -/

section Join

variable {base name : String}

theorem isAbsolute_of_isSegment (hname : Url.IsSegment name.toList) : isAbsolute name = false :=
  decide_eq_false fun hhead => hname.unbroken (List.mem_of_mem_head? hhead)

theorem join_empty (hname : Url.IsSegment name.toList) : join "" name = name := by
  rw [join, if_neg (by simp [isAbsolute_of_isSegment hname]), if_pos (.inl rfl), String.empty_append]

theorem exists_toList_join (hname : Url.IsSegment name.toList) (hbase : base ≠ "") :
    ∃ front, (base.toList = front ∨ base.toList = front ++ ['/']) ∧
      (join base name).toList = front ++ '/' :: name.toList := by
  rw [join, if_neg (by simp [isAbsolute_of_isSegment hname])]
  by_cases hslash : base.toList.getLast? = some '/'
  · obtain ⟨front, hfront⟩ := List.getLast?_eq_some_iff.mp hslash
    rw [if_pos (.inr hslash), String.toList_append, hfront]
    exact ⟨front, .inr rfl, List.append_assoc _ _ _⟩
  · rw [if_neg (not_or.mpr ⟨hbase, hslash⟩)]
    exact ⟨base.toList, .inl rfl, by simp⟩

theorem exists_splitOn_join (hname : Url.IsSegment name.toList) (hbase : base ≠ "") :
    ∃ front, (join base name).toList.splitOn '/' = front ++ [name.toList] ∧
      (base.toList.splitOn '/' = front ∨ base.toList.splitOn '/' = front ++ [[]]) := by
  obtain ⟨front, hfront, hjoin⟩ := exists_toList_join hname hbase
  refine ⟨front.splitOn '/', ?_, ?_⟩
  · rw [hjoin, List.splitOn_append_cons_self, List.splitOn_eq_singleton hname.unbroken]
  · rcases hfront with hfront | hfront
    · exact .inl (by rw [hfront])
    · exact .inr (by rw [hfront, List.splitOn_append_cons_self, List.splitOn_nil])

theorem isAbsolute_join (hname : Url.IsSegment name.toList) : isAbsolute (join base name) = isAbsolute base := by
  by_cases hbase : base = ""
  · rw [hbase, join_empty hname, isAbsolute_of_isSegment hname]
    rfl
  · obtain ⟨front, hfront, hjoin⟩ := exists_toList_join hname hbase
    rw [isAbsolute, isAbsolute, hjoin]
    cases front with
    | nil =>
      rcases hfront with hfront | hfront
      · exact absurd (String.toList_inj.mp hfront) hbase
      · rw [hfront]
        rfl
    | cons c rest => rcases hfront with hfront | hfront <;> (rw [hfront]; rfl)

theorem steps_join_ne_nil (hname : Url.IsSegment name.toList) (hleads : leadsOn name.toList = true) :
    steps (join base name) ≠ [] := by
  refine List.ne_nil_of_mem (a := name.toList) (List.mem_filter.mpr ⟨?_, hleads⟩)
  by_cases hbase : base = ""
  · rw [hbase, join_empty hname, List.splitOn_eq_singleton hname.unbroken]
    exact List.mem_singleton_self _
  · obtain ⟨front, hjoin, -⟩ := exists_splitOn_join hname hbase
    rw [hjoin]
    exact List.mem_concat_self

theorem fitsUrl_join (hname : Url.IsSegment name.toList) : FitsUrl (join base name) ↔ FitsUrl base := by
  by_cases hbase : base = ""
  · have hrelative : isAbsolute base = false := by
      rw [hbase]
      rfl
    constructor
    · exact fun h => absurd h.absolute (by simp [isAbsolute_join hname, hrelative])
    · exact fun h => absurd h.absolute (by simp [hrelative])
  · obtain ⟨front, hjoin, hfront⟩ := exists_splitOn_join hname hbase
    constructor
    · intro h
      refine ⟨isAbsolute_join hname ▸ h.absolute, fun s hs => ?_⟩
      have hstays : ∀ s ∈ front, Url.IsSegment s ∨ s = ['.'] := fun s hs =>
        h.segments s (hjoin ▸ List.mem_append_left _ hs)
      rcases hfront with hfront | hfront <;> rw [hfront] at hs
      · exact hstays s hs
      · rcases List.mem_append.mp hs with hs | hs
        · exact hstays s hs
        · exact .inl (List.mem_singleton.mp hs ▸ Url.isSegment_nil)
    · intro h
      refine ⟨(isAbsolute_join hname).trans h.absolute, fun s hs => ?_⟩
      rw [hjoin, List.mem_append, List.mem_singleton] at hs
      rcases hs with hs | rfl
      · refine h.segments s ?_
        rcases hfront with hfront | hfront <;> rw [hfront]
        · exact hs
        · exact List.mem_append_left _ hs
      · exact .inl hname

end Join

end Path

end RouteServer
