import RouteServer.Session.Snapshot

/-! # The order of addresses is lawful

Two addresses, and so two keys of sessions, are equal exactly when the order does not tell them apart.
-/

namespace RouteServer

theorem numeral_injective {α : Type} {base : Nat} {digit : α → Nat} (hlt : ∀ a, digit a < base)
    (hinj : ∀ a b, digit a = digit b → a = b) {l l' : List α} {n n' : Nat} (hlen : l.length = l'.length)
    (h : l.foldl (fun n a => base * n + digit a) n = l'.foldl (fun n a => base * n + digit a) n') :
    n = n' ∧ l = l' := by
  induction l generalizing l' n n' with
  | nil =>
    obtain rfl := List.eq_nil_of_length_eq_zero hlen.symm
    exact ⟨h, rfl⟩
  | cons a rest ih =>
    cases l' with
    | nil => cases hlen
    | cons b rest' =>
      obtain ⟨hnum, rfl⟩ := ih (Nat.succ.inj hlen) h
      have hdigit : digit a = digit b := by
        have := congrArg (· % base) hnum
        simpa [Nat.mul_add_mod, Nat.mod_eq_of_lt (hlt _)] using this
      simp only [hdigit] at hnum
      have hbase : 0 < base := Nat.zero_lt_of_lt (hlt a)
      exact ⟨Nat.eq_of_mul_eq_mul_left hbase (Nat.add_right_cancel hnum), by rw [hinj a b hdigit]⟩

namespace IPv4

theorem toNat_injective {x y : IPv4} (h : x.toNat = y.toNat) : x = y := by
  have hlt : ∀ o : UInt8, o.toNat < 256 := UInt8.toNat_lt
  have hlen : x.octets.length = y.octets.length := rfl
  obtain ⟨-, hoctets⟩ := numeral_injective hlt (fun _ _ => UInt8.toNat_inj.mp) hlen h
  cases x
  cases y
  simpa [octets] using hoctets

theorem toNat_lt (x : IPv4) : x.toNat < UInt32.size := by
  have ha := x.a.toNat_lt
  have hb := x.b.toNat_lt
  have hc := x.c.toNat_lt
  have hd := x.d.toNat_lt
  simp only [toNat, octets, List.foldl_cons, List.foldl_nil, UInt32.size]
  omega

end IPv4

theorem IPv6.toNat_injective {x y : IPv6} (h : x.toNat = y.toNat) : x = y := by
  have hlt : ∀ g : UInt16, g.toNat < 65536 := UInt16.toNat_lt
  have hlen : x.groups.toList.length = y.groups.toList.length := by simp
  obtain ⟨-, hgroups⟩ := numeral_injective hlt (fun _ _ => UInt16.toNat_inj.mp) hlen h
  cases x
  cases y
  simpa [Vector.toList_inj] using hgroups

namespace Address

theorem rank_injective {x y : Address} (h : x.rank = y.rank) : x = y := by
  match x, y with
  | v4 x, v4 y => exact congrArg v4 (IPv4.toNat_injective h)
  | v6 x, v6 y => exact congrArg v6 (IPv6.toNat_injective (Nat.add_left_cancel h))
  | v4 x, v6 y =>
    have := x.toNat_lt
    simp only [rank] at h
    omega
  | v6 x, v4 y =>
    have := y.toNat_lt
    simp only [rank] at h
    omega

instance : Std.LawfulEqOrd Address where
  eq_of_compare h := rank_injective (Nat.compare_eq_eq.mp h)

end Address

instance : Std.LawfulEqOrd Session.Key where
  eq_of_compare {x y} h := by
    obtain ⟨hlocal, hpeer⟩ := compareLex_eq_eq.mp h
    cases x
    cases y
    simp_all [compareOn]

end RouteServer
