import RouteServer.Files.Path
import RouteServer.Proofs.Endpoint.Host
import RouteServer.Proofs.Except
import RouteServer.Proofs.Numerals
import RouteServer.Proofs.Utf8

/-! # Reading URLs of endpoints

Around the host, the port and the path of an endpoint little is read: the text is cleaned, its scheme and its
authority are split off. Each part comes out in a form that is left alone when it is read again.
-/

namespace RouteServer

namespace Url

/-! ## Around the parts -/

variable {cs front host : List Char} {text scheme : String} {url : Url}

/-- What is left of the end of a text. -/
def cleanEnd (cs : List Char) : List Char :=
  (cs.reverse.dropWhile (· ≤ ' ')).reverse.filter fun c => c ≠ '\t' ∧ c ≠ '\n' ∧ c ≠ '\r'

theorem keeps_of_visible {c : Char} (hc : ' ' < c) : (c ≠ '\t' ∧ c ≠ '\n' ∧ c ≠ '\r') ∧ ¬ c ≤ ' ' := by
  refine ⟨⟨?_, ?_, ?_⟩, Char.not_le.mpr hc⟩ <;> (rintro rfl; revert hc; decide)

theorem dropWhile_visible (h : ∀ c ∈ cs, ' ' < c) : cs.dropWhile (· ≤ ' ') = cs := by
  cases cs with
  | nil => rfl
  | cons c rest => exact List.dropWhile_cons_of_neg (by simpa using (keeps_of_visible (h c List.mem_cons_self)).2)

theorem cleanEnd_append (hfront : ∀ c ∈ front, ' ' < c) (cs : List Char) :
    cleanEnd (front ++ cs) = front ++ cleanEnd cs := by
  have hkept : front.filter (fun c => c ≠ '\t' ∧ c ≠ '\n' ∧ c ≠ '\r') = front :=
    List.filter_eq_self.mpr fun c hc => by simpa using (keeps_of_visible (hfront c hc)).1
  have hback : front.reverse.dropWhile (· ≤ ' ') = front.reverse :=
    dropWhile_visible fun c hc => hfront c (List.mem_reverse.mp hc)
  have hend : ((front ++ cs).reverse.dropWhile (· ≤ ' ')).reverse =
      front ++ (cs.reverse.dropWhile (· ≤ ' ')).reverse := by
    rw [List.reverse_append, List.dropWhile_append]
    split
    · rename_i hempty
      rw [List.isEmpty_iff.mp hempty, hback, List.reverse_reverse, List.reverse_nil, List.append_nil]
    · rw [List.reverse_append, List.reverse_reverse]
  rw [cleanEnd, hend, List.filter_append, hkept]
  rfl

theorem cleanEnd_visible (h : ∀ c ∈ cs, ' ' < c) : cleanEnd cs = cs := by
  have hnil : cleanEnd [] = [] := rfl
  have hend := cleanEnd_append h []
  rwa [hnil, List.append_nil] at hend

theorem clean_append (hne : front ≠ []) (hfront : ∀ c ∈ front, ' ' < c) (cs : List Char) :
    clean (.ofList (front ++ cs)) = front ++ cleanEnd cs := by
  have hstart : (front ++ cs).dropWhile (· ≤ ' ') = front ++ cs := by
    rw [List.dropWhile_append, dropWhile_visible hfront, if_neg (by simpa using hne)]
  rw [clean, String.toList_ofList, hstart]
  exact cleanEnd_append hfront cs

theorem parse_authority (h : scheme = "unix" ∨ scheme = "tcp") (cs : List Char) :
    parse (.ofList ((scheme ++ "://").toList ++ cs)) = readAuthority scheme .other (cleanEnd cs) := by
  rw [parse]
  rcases h with rfl | rfl
  all_goals
    rw [clean_append (by decide) (List.all_iff_forall_prop.mp rfl)]
    rfl

/-! ## Authority -/

theorem isSpecial_other : SchemeKind.isSpecial .other = false := rfl

theorem readAuthority_slash (scheme : String) (cs : List Char) : readAuthority scheme .other ('/' :: cs) =
    .ok { scheme, host := none, port := none, path := .ofList (readPath false cs) } := rfl

theorem isPath_pathAfterHost (h : pathAfterHost false cs ≠ []) : IsPath (pathAfterHost false cs) := by
  cases cs with
  | nil => exact absurd rfl h
  | cons c rest =>
    rw [pathAfterHost] at h ⊢
    split
    · exact isPath_readPath rest
    · split
      · simp_all
      · exact isPath_readPath (c :: rest)

theorem isHost_of_readHost {host : Option (List Char)} {port : Option UInt16} {rest : List Char}
    (h : readHost .other cs = .ok (host, port, rest)) : ∀ text ∈ host, IsHost text := by
  obtain ⟨text, hopaque, h⟩ := bind_eq_ok_iff.mp h
  split at h
  · split at h
    · cases h
    · rename_i hne
      obtain ⟨⟨_, _⟩, -, h⟩ := bind_eq_ok_iff.mp h
      obtain ⟨rfl, -⟩ := Prod.mk.inj (Except.ok.inj h)
      rintro _ ⟨⟩
      exact isHost_of_opaqueHost hopaque hne
  · obtain ⟨rfl, -⟩ := Prod.mk.inj (Except.ok.inj h)
    intro shown hshown
    split at hshown
    · cases hshown
    · rename_i hne
      obtain rfl := Option.some.inj hshown
      exact isHost_of_opaqueHost hopaque hne

theorem readAuthority_eq_ok {kind : SchemeKind} (h : readAuthority scheme kind cs = .ok url) :
    ∃ front host port rest, readHost kind front = .ok (host, port, rest) ∧
      url = ⟨scheme, host.map .ofList, port, .ofList (pathAfterHost kind.isSpecial rest)⟩ := by
  obtain ⟨⟨hasUser, front⟩, -, h⟩ := bind_eq_ok_iff.mp h
  obtain ⟨⟨host, port, rest⟩, hhost, h⟩ := bind_eq_ok_iff.mp h
  simp only at h
  split at h
  · cases h
  · exact ⟨front, host, port, rest, hhost, (Except.ok.inj h).symm⟩

theorem encodeChar_ne_nil (inSet : Char → Bool) (c : Char) : encodeChar inSet c ≠ [] := by
  have hbytes : Utf8.encode (.singleton c) ≠ [] := by
    intro hnil
    have hempty : Utf8.encode (.singleton c) = Utf8.encode "" := by
      rw [hnil, Utf8.encode_eq ""]
      rfl
    exact absurd (Utf8.encode_inj.mp hempty) (by simp)
  unfold encodeChar
  split
  · obtain ⟨b, more, hcons⟩ := List.exists_cons_of_ne_nil hbytes
    rw [hcons]
    exact List.cons_ne_nil _ _
  · exact List.cons_ne_nil _ _

theorem head?_of_percentEncode {inSet : Char → Bool} (h : (percentEncode inSet cs).head? = some '/') :
    cs.head? = some '/' := by
  cases cs with
  | nil => cases h
  | cons c rest =>
    obtain ⟨d, more, hencoded⟩ := List.exists_cons_of_ne_nil (encodeChar_ne_nil inSet c)
    have hd : d = '/' := by simpa [percentEncode, hencoded] using h
    have hmem : d ∈ percentEncode inSet [c] := by simp [percentEncode, hencoded]
    rcases mem_percentEncode hmem with ⟨hc, -⟩ | hescape
    · obtain rfl := List.mem_singleton.mp hc
      rw [hd]
      rfl
    · exact absurd hd (isPathEncoded_escape d hescape).2

theorem head?_opaque_ne (h : ∀ more, cs = '/' :: more → False) :
    (percentEncode isControl (cs.takeWhile (!endsPath ·))).head? ≠ some '/' := by
  intro hhead
  obtain ⟨more, htake⟩ := List.head?_eq_some_iff.mp (head?_of_percentEncode hhead)
  obtain ⟨rest, hcs⟩ := htake ▸ List.takeWhile_prefix (!endsPath ·) (l := cs)
  exact h (more ++ rest) hcs.symm

/-- What the path and the host of a URL for an endpoint are. -/
structure IsRead (url : Url) : Prop where
  path : Path.isAbsolute url.path = true → IsPath url.path.toList
  host : ∀ host ∈ url.host, IsHost host.toList

theorem isPath_of_readAuthority (h : readAuthority scheme .other cs = .ok url) (hne : url.path ≠ "") :
    IsPath url.path.toList := by
  obtain ⟨front, host, port, rest, -, rfl⟩ := readAuthority_eq_ok h
  rw [isSpecial_other] at hne ⊢
  rw [String.toList_ofList]
  refine isPath_pathAfterHost fun hnil => hne ?_
  rw [hnil]

theorem isRead_of_readAuthority (h : readAuthority scheme .other cs = .ok url) : IsRead url := by
  constructor
  · intro habsolute
    refine isPath_of_readAuthority h fun hempty => ?_
    rw [hempty] at habsolute
    cases habsolute
  · obtain ⟨front, host, port, rest, hhost, rfl⟩ := readAuthority_eq_ok h
    intro shown hshown
    obtain ⟨text, htext, rfl⟩ := Option.map_eq_some_iff.mp hshown
    rw [String.toList_ofList]
    exact isHost_of_readHost hhost text htext

theorem kind_of_endpoint (h : scheme = "unix" ∨ scheme = "tcp") {chars : List Char}
    (hchars : String.ofList chars = scheme) : SchemeKind.of chars = .other := by
  unfold SchemeKind.of
  rw [hchars]
  rcases h with rfl | rfl <;> rfl

theorem isRead_of_parse (h : parse text = .ok url) (hscheme : url.scheme = "unix" ∨ url.scheme = "tcp") :
    IsRead url := by
  rw [parse] at h
  split at h
  · cases h
  · rename_i chars rest hsplit
    simp only at h
    split at h
    · rename_i usual hkind
      obtain ⟨_, _, _, _, _, rfl⟩ := readAuthority_eq_ok h
      rw [kind_of_endpoint hscheme rfl] at hkind
      cases hkind
    · rename_i hkind
      have hfile : url.scheme = String.ofList chars := by
        split at h
        · split at h
          · obtain ⟨_, -, rfl⟩ := map_eq_ok_iff.mp h
            rfl
          · obtain rfl := Except.ok.inj h
            rfl
        · obtain rfl := Except.ok.inj h
          rfl
      rw [kind_of_endpoint hscheme hfile.symm] at hkind
      cases hkind
    · split at h
      · exact isRead_of_readAuthority h
      · obtain rfl := Except.ok.inj h
        refine ⟨fun _ => ?_, nofun⟩
        rw [String.toList_ofList]
        exact isPath_readPath _
      · rename_i hslash
        obtain rfl := Except.ok.inj h
        refine ⟨fun habsolute => ?_, nofun⟩
        rw [Path.isAbsolute, String.toList_ofList, decide_eq_true_eq] at habsolute
        exact absurd habsolute (head?_opaque_ne hslash)

/-! ## Host and port -/

theorem splitUser_of_notMem {special : Bool} (h : '@' ∉ cs) : splitUser special cs = .ok (false, cs) := by
  have hauthority : '@' ∉ cs.takeWhile fun c => !endsAuthority special c :=
    fun hmem => h ((List.takeWhile_sublist _).subset hmem)
  simp only [splitUser]
  rw [if_pos hauthority]

theorem isDigit_of_mem_port {port : UInt16} {c : Char} (hc : c ∈ (toString port.toNat).toList) :
    c.isDigit = true := by
  rw [Decimal.toList_toString] at hc
  exact Nat.isDigit_of_mem_toDigits (by decide) (by decide) hc

theorem readPort_port (port : UInt16) : readPort none (toString port.toNat).toList = .ok (some port, []) := by
  have htake : (toString port.toNat).toList.takeWhile Char.isDigit = (toString port.toNat).toList :=
    List.takeWhile_eq_self_iff.mpr fun _ => isDigit_of_mem_port
  have hdrop : (toString port.toNat).toList.dropWhile Char.isDigit = [] :=
    List.dropWhile_eq_nil_iff.mpr fun _ => isDigit_of_mem_port
  have hvalue : Nat.ofDigitChars 10 (toString port.toNat).toList 0 = port.toNat := by
    rw [Decimal.toList_toString, Nat.ofDigitChars_ten_toDigits]
  have hfits : ¬ UInt16.size ≤ port.toNat := Nat.not_le.mpr port.toNat_lt
  have hne : (toString port.toNat).toList ≠ [] := by
    rw [Decimal.toList_toString]
    exact Nat.toDigits_ne_nil
  simp only [readPort, htake, hdrop, hvalue]
  rw [if_neg hfits, if_neg hne, UInt16.ofNat_toNat]
  rfl

theorem readHost_host (h : IsHost host) (port : UInt16) :
    readHost .other (host ++ ':' :: (toString port.toNat).toList) = .ok (some host, some port, []) := by
  simp only [readHost, isSpecial_other, h.splitHost_eq, h.opaqueHost_eq, readPort_port, bind, Except.bind]
  rw [if_neg h.ne_nil]
  rfl

theorem visible_of_isDigit {c : Char} (h : c.isDigit = true) : ' ' < c := by
  simp only [Char.isDigit, Bool.and_eq_true, decide_eq_true_eq] at h
  rw [Char.lt_def]
  exact Nat.lt_of_lt_of_le (by decide) h.1

theorem mem_host_port (h : IsHost host) (port : UInt16) :
    ∀ c ∈ host ++ ':' :: (toString port.toNat).toList, ' ' < c ∧ c ≠ '@' := by
  intro c hc
  rcases List.mem_append.mp hc with hhost | hport
  · exact ⟨(h.mem hhost).1, (h.mem hhost).2.1⟩
  · rcases List.mem_cons.mp hport with rfl | hport
    · decide
    · have hdigit := isDigit_of_mem_port hport
      refine ⟨visible_of_isDigit hdigit, ?_⟩
      rintro rfl
      cases hdigit

theorem readAuthority_host (h : IsHost host) (scheme : String) (port : UInt16) :
    readAuthority scheme .other (host ++ ':' :: (toString port.toNat).toList) =
      .ok { scheme, host := some (.ofList host), port := some port, path := "" } := by
  have hat : '@' ∉ host ++ ':' :: (toString port.toNat).toList := fun hmem =>
    (mem_host_port h port '@' hmem).2 rfl
  simp only [readAuthority, splitUser_of_notMem hat, readHost_host h, bind, Except.bind]
  rfl

end Url

end RouteServer
