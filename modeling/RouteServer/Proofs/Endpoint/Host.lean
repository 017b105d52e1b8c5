import RouteServer.Endpoint.Url
import RouteServer.Proofs.Address.Text
import RouteServer.Proofs.Endpoint.Path

/-! # Hosts in URLs

The host of an endpoint is an IPv6 address in brackets, or a text that holds no sign of the URL around it. It is
read as it is, wherever it stands before a port.
-/

namespace RouteServer.Url

/-- What a host comes out as. -/
inductive IsHost : List Char → Prop
  | address (address : IPv6) : IsHost ('[' :: (address.renderCompressed.toList ++ [']']))
  | text (cs : List Char) (hne : cs ≠ [])
    (hcs : ∀ c ∈ cs, isForbiddenInHost c = false ∧ isControl c = false) : IsHost cs

variable {cs host rest : List Char} {c : Char}

theorem ne_of_allowed {d : Char} (hc : isForbiddenInHost c = false) (hd : isForbiddenInHost d = true) :
    c ≠ d := by
  rintro rfl
  exact absurd hd (by simp [hc])

theorem endsAuthority_of_allowed (h : isForbiddenInHost c = false) : endsAuthority false c = false := by
  simp [endsAuthority, ne_of_allowed h (d := '/') rfl, ne_of_allowed h (d := '?') rfl,
    ne_of_allowed h (d := '#') rfl]

theorem head?_ne_bracket (h : ∀ c ∈ cs, isForbiddenInHost c = false) : cs.head? ≠ some '[' := by
  intro hhead
  cases h '[' (List.mem_of_mem_head? hhead)

theorem opaqueHost_of_not_bracket (h : cs.head? ≠ some '[') : opaqueHost cs =
    if cs.any isForbiddenInHost then .error .invalidDomainCharacter else .ok (percentEncode isControl cs) := by
  unfold opaqueHost
  split
  · exact absurd rfl h
  · rfl

theorem kept_escape : ∀ c ∈ escapeAlphabet, isForbiddenInHost c = false ∧ isControl c = false :=
  List.all_iff_forall_prop.mp rfl

theorem isHost_of_opaqueHost (h : opaqueHost cs = .ok host) (hne : host ≠ []) : IsHost host := by
  by_cases hbracket : cs.head? = some '['
  · obtain ⟨inside, rfl⟩ := List.head?_eq_some_iff.mp hbracket
    rw [opaqueHost, bracketed] at h
    split at h
    · split at h
      · rename_i address _
        obtain rfl := Except.ok.inj h
        exact .address address
      · cases h
    · cases h
  · rw [opaqueHost_of_not_bracket hbracket] at h
    split at h
    · cases h
    · rename_i hallowed
      obtain rfl := Except.ok.inj h
      refine .text _ hne fun c hc => ?_
      rcases mem_percentEncode hc with ⟨hmem, hplain⟩ | hescape
      · refine ⟨?_, hplain⟩
        simp only [List.any_eq_true, not_exists, not_and, Bool.not_eq_true] at hallowed
        exact hallowed c hmem
      · exact kept_escape c hescape

namespace IsHost

theorem opaqueHost_eq (h : IsHost host) : opaqueHost host = .ok host := by
  cases h with
  | address address =>
    rw [opaqueHost, bracketed, if_pos List.getLast?_concat, List.dropLast_concat,
      IPv6.parseChars?_renderCompressed]
    rfl
  | text _ _ hcs =>
    have hallowed : host.any isForbiddenInHost = false := by
      simp only [List.any_eq_false, Bool.not_eq_true]
      exact fun c hc => (hcs c hc).1
    rw [opaqueHost_of_not_bracket (head?_ne_bracket fun c hc => (hcs c hc).1), hallowed,
      percentEncode_eq_self fun c hc => (hcs c hc).2]
    rfl

theorem ne_nil (h : IsHost host) : host ≠ [] := by
  cases h with
  | address => exact List.cons_ne_nil _ _
  | text _ hne => exact hne

theorem mem (h : IsHost host) (hc : c ∈ host) :
    ' ' < c ∧ c ≠ '@' ∧ endsAuthority false c = false := by
  cases h with
  | address address =>
    have halphabet : ∀ c ∈ '[' :: ']' :: Address.alphabet,
        ' ' < c ∧ c ≠ '@' ∧ endsAuthority false c = false := List.all_iff_forall_prop.mp rfl
    apply halphabet
    rcases List.mem_cons.mp hc with rfl | hc
    · exact List.mem_cons_self
    · rcases List.mem_append.mp hc with hc | hc
      · exact List.mem_cons_of_mem _ (List.mem_cons_of_mem _ (IPv6.mem_renderCompressed hc))
      · obtain rfl := List.mem_singleton.mp hc
        exact List.mem_cons_of_mem _ List.mem_cons_self
  | text _ _ hcs =>
    obtain ⟨hforbidden, hcontrol⟩ := hcs c hc
    exact ⟨visible_of_not_control hcontrol (ne_of_allowed hforbidden rfl), ne_of_allowed hforbidden rfl,
      endsAuthority_of_allowed hforbidden⟩

end IsHost

theorem splitHost_append {inBrackets : Bool}
    (h : ∀ c ∈ cs, c ≠ '[' ∧ c ≠ ']' ∧ endsAuthority false c = false ∧ (inBrackets = false → c ≠ ':')) :
    splitHost false inBrackets (cs ++ rest) = (splitHost false inBrackets rest).map (cs ++ ·) id := by
  induction cs with
  | nil => rfl
  | cons c cs ih =>
    obtain ⟨hopen, hclose, hends, hcolon⟩ := h c List.mem_cons_self
    have hgo : ¬ ((c = ':' && !inBrackets) || endsAuthority false c) = true := by
      cases inBrackets <;> simp_all
    simp only [List.cons_append, splitHost, if_neg hgo, if_neg hopen, if_neg hclose,
      ih fun d hd => h d (List.mem_cons_of_mem c hd)]
    rfl

theorem IsHost.splitHost_eq (h : IsHost host) (rest : List Char) :
    splitHost false false (host ++ ':' :: rest) = (host, ':' :: rest) := by
  cases h with
  | address address =>
    have halphabet : ∀ c ∈ Address.alphabet, c ≠ '[' ∧ c ≠ ']' ∧ endsAuthority false c = false ∧
        (true = false → c ≠ ':') := List.all_iff_forall_prop.mp rfl
    have hopen : splitHost false false ('[' :: (address.renderCompressed.toList ++ ']' :: ':' :: rest)) =
        (splitHost false true (address.renderCompressed.toList ++ ']' :: ':' :: rest)).map ('[' :: ·) id := rfl
    rw [List.cons_append, List.append_assoc, List.singleton_append, hopen,
      splitHost_append fun c hc => halphabet c (IPv6.mem_renderCompressed hc)]
    rfl
  | text _ _ hcs =>
    rw [splitHost_append]
    · simp [splitHost]
    · intro c hc
      have hallowed := (hcs c hc).1
      exact ⟨ne_of_allowed hallowed rfl, ne_of_allowed hallowed rfl, endsAuthority_of_allowed hallowed,
        fun _ => ne_of_allowed hallowed rfl⟩

end RouteServer.Url
