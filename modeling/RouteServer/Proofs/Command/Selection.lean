import Mathlib.Data.List.Forall2
import RouteServer.Command.Selector
import RouteServer.Proofs.Address.Text
import RouteServer.Proofs.Config.Declared
import RouteServer.Proofs.Text

/-! # Selectors mean what they say

A selector is matched against the words of a name. What it describes is said about the neighbor itself, and
both agree: a phrase of a selector never stands across two phrases of a name.
-/

namespace RouteServer

namespace Command

/-! ## What a selector describes -/

def Qualifier.Holds (n : Neighbor) : Qualifier → Prop
  | localIp address => n.localAddress = some address
  | localAs asNumber => asNumber = n.localAs
  | peerAs asNumber => asNumber = n.peerAs
  | routerId id => n.routerId = some id
  | familyAllowed families => families = Neighbor.familyPhrase n.families

def Selector.Describes (n : Neighbor) : Selector → Prop
  | any => True
  | peer address qualifiers => address = n.peerAddress ∧ ∀ q ∈ qualifiers, q.Holds n

/-! ## What a description says -/

/-- Pairs of a key and a value. -/
inductive QualifiersSaid : List String → List Qualifier → Prop
  | nil : QualifiersSaid [] []
  | cons (key : QualifierKey) (value : String) (q : Qualifier) (hq : Qualifier.read? value key = some q)
    (ws : List String) (qs : List Qualifier) (hrest : QualifiersSaid ws qs) :
    QualifiersSaid (key.render :: value :: ws) (q :: qs)

/-- A star, or an address behind an optional word, with qualifiers. -/
inductive Selector.Said : List String → Selector → Prop
  | any : Said ["*"] .any
  | peer (word : String) (address : Address) (haddress : Address.parse? word = some address)
    (ws : List String) (qs : List Qualifier) (hrest : QualifiersSaid ws qs) :
    Said (word :: ws) (.peer address qs)
  | neighbor (word : String) (address : Address) (haddress : Address.parse? word = some address)
    (ws : List String) (qs : List Qualifier) (hrest : QualifiersSaid ws qs) :
    Said ("neighbor" :: word :: ws) (.peer address qs)

theorem QualifierKey.ofWord?_eq_some_iff {word : String} {key : QualifierKey} :
    QualifierKey.ofWord? word = some key ↔ key.render = word := by
  constructor
  · intro h
    simpa using List.find?_some h
  · rintro rfl
    cases key <;> rfl

theorem readQualifiers_eq_ok_iff {ws : List String} {qs : List Qualifier} :
    Selector.readQualifiers ws = .ok qs ↔ QualifiersSaid ws qs := by
  constructor
  · intro h
    fun_induction Selector.readQualifiers ws generalizing qs with
    | case1 =>
      obtain rfl := Except.ok.inj h
      exact .nil
    | case2 => cases h
    | case3 => cases h
    | case4 => cases h
    | case5 token key hkey value rest q hq ih =>
      obtain ⟨more, hmore, hreturn⟩ := bind_eq_ok_iff.mp h
      obtain rfl := Except.ok.inj hreturn
      rw [← QualifierKey.ofWord?_eq_some_iff.mp hkey]
      exact .cons key value q hq rest more (ih hmore)
  · intro h
    induction h with
    | nil => rfl
    | cons key value q hq ws qs hrest ih =>
      simp only [Selector.readQualifiers, QualifierKey.ofWord?_eq_some_iff.mpr rfl, hq, ih]
      rfl

namespace Selector

theorem readPeer_eq_ok_iff {ws : List String} {s : Selector} : readPeer ws = .ok s ↔
    ∃ word address rest qs, Address.parse? word = some address ∧ QualifiersSaid rest qs ∧
      ws = word :: rest ∧ s = .peer address qs := by
  cases ws with
  | nil => simp [readPeer]
  | cons word rest =>
    simp only [readPeer]
    cases haddress : Address.parse? word with
    | none =>
      constructor
      · intro h
        cases h
      · rintro ⟨word, address, rest, qs, hparse, -, heq, -⟩
        obtain ⟨rfl, rfl⟩ := List.cons.inj heq
        cases haddress.symm.trans hparse
    | some address =>
      constructor
      · intro h
        obtain ⟨qs, hqs, hreturn⟩ := bind_eq_ok_iff.mp h
        exact ⟨word, address, rest, qs, haddress, readQualifiers_eq_ok_iff.mp hqs, rfl,
          (Except.ok.inj hreturn).symm⟩
      · rintro ⟨word, address, rest, qs, hparse, hqs, heq, rfl⟩
        obtain ⟨rfl, rfl⟩ := List.cons.inj heq
        obtain rfl := Option.some.inj (haddress.symm.trans hparse)
        exact bind_eq_ok_iff.mpr ⟨qs, readQualifiers_eq_ok_iff.mpr hqs, rfl⟩

theorem ofWords_eq_ok_iff {ws : List String} {s : Selector} : ofWords ws = .ok s ↔ Said ws s := by
  constructor
  · intro h
    unfold ofWords at h
    split at h
    · obtain rfl := Except.ok.inj h
      exact .any
    · cases h
    · obtain ⟨word, address, rest, qs, haddress, hqs, rfl, rfl⟩ := readPeer_eq_ok_iff.mp h
      exact .neighbor word address haddress rest qs hqs
    · obtain ⟨word, address, rest, qs, haddress, hqs, rfl, rfl⟩ := readPeer_eq_ok_iff.mp h
      exact .peer word address haddress rest qs hqs
  · intro h
    cases h with
    | any => rfl
    | neighbor word address haddress ws qs hrest =>
      exact readPeer_eq_ok_iff.mpr ⟨word, address, ws, qs, haddress, hrest, rfl, rfl⟩
    | peer word address haddress ws qs hrest =>
      -- Neither a star nor the optional word is an address.
      have hstar : word ≠ "*" := by
        rintro rfl
        cases haddress
      have hneighbor : word ≠ "neighbor" := by
        rintro rfl
        cases haddress
      have hpeer : ofWords (word :: ws) = readPeer (word :: ws) := by
        unfold ofWords
        split
        · rename_i heq
          exact absurd (List.cons.inj heq).1 hstar
        · rename_i heq
          exact absurd (List.cons.inj heq).1 hstar
        · rename_i heq
          exact absurd (List.cons.inj heq).1 hneighbor
        · rfl
      rw [hpeer]
      exact readPeer_eq_ok_iff.mpr ⟨word, address, ws, qs, haddress, hrest, rfl, rfl⟩

end Selector

/-! ## The words of a name -/

section Words

variable {n : Neighbor}

theorem isWord_of_alphabet {word : String} (hne : word ≠ "")
    (h : ∀ c ∈ word.toList, c ∈ Address.alphabet) : Text.IsWord word where
  nonempty := hne
  unbroken c hc := by
    have hall : Address.alphabet.any Text.isBlank = false := by decide
    exact Bool.eq_false_iff.mpr (List.any_eq_false.mp hall c (h c hc))

theorem isWord_render (a : Address) : Text.IsWord a.render :=
  isWord_of_alphabet a.render_ne_empty fun _ => Address.mem_render

theorem isWord_toString (k : Nat) : Text.IsWord (toString k) :=
  isWord_of_alphabet (Decimal.toString_ne_empty k) fun _ => Address.mem_alphabet_of_mem_toString

theorem isWord_renderWith (family : Family) : Text.IsWord (family.renderWith "-") := by
  obtain ⟨afi, safi⟩ := family
  cases afi <;> cases safi <;> decide

theorem isWord_familyPhrase (families : Families) : Text.IsWord (Neighbor.familyPhrase families) := by
  unfold Neighbor.familyPhrase
  split
  · decide
  · rename_i hsome
    have hne : families.toList ≠ [] := mt Families.isEmpty_iff.mpr hsome
    have hslash : Text.IsWord "/" := by decide
    refine Text.IsWord.intercalate hslash.unbroken (by simpa using hne) fun word hword => ?_
    obtain ⟨family, -, rfl⟩ := List.mem_map.mp hword
    exact isWord_renderWith family

/-- The families are read off a phrase by cutting it at the slashes. -/
theorem splitOnChar_familyPhrase (families : Families) :
    Text.splitOnChar '/' (Neighbor.familyPhrase families) =
      if families.toList = [] then ["in-open"]
      else families.toList.map fun p => p.afi.render ++ "-" ++ p.safi.render := by
  unfold Neighbor.familyPhrase
  simp only [Families.isEmpty_iff]
  split
  · decide
  · rename_i hne
    refine Text.splitOnChar_intercalate rfl (by simpa using hne) fun word hword => ?_
    obtain ⟨⟨afi, safi⟩, -, rfl⟩ := List.mem_map.mp hword
    cases afi <;> cases safi <;> decide

theorem familyPhrase_inj {f g : Families} : Neighbor.familyPhrase f = Neighbor.familyPhrase g ↔ f = g := by
  have hopen : ∀ p : Family, p.renderWith "-" ≠ "in-open" := by
    rintro ⟨afi, safi⟩
    cases afi <;> cases safi <;> decide
  have hsome : ∀ families : List Family, families.map (Family.renderWith "-") ≠ ["in-open"] := by
    intro families h
    obtain ⟨p, -, hp⟩ := List.map_eq_singleton_iff.mp h
    exact hopen p hp
  refine ⟨fun h => Families.toList_inj.mp ?_, congrArg Neighbor.familyPhrase⟩
  have hpieces := congrArg (Text.splitOnChar '/') h
  rw [splitOnChar_familyPhrase, splitOnChar_familyPhrase] at hpieces
  split at hpieces
  · rename_i hf
    split at hpieces
    · rename_i hg
      rw [hf, hg]
    · exact absurd hpieces.symm (hsome _)
  · split at hpieces
    · exact absurd hpieces (hsome _)
    · exact List.map_injective_iff.mpr (fun p q => Family.renderWith_inj.mp) hpieces

/-- The words that begin a phrase. -/
def keys : List String := "neighbor" :: QualifierKey.all.map QualifierKey.render

theorem isWord_key : ∀ key ∈ keys, Text.IsWord key := by decide

theorem isWord_of_mem_phrases {p : String × String} (hp : p ∈ n.phrases) :
    Text.IsWord p.1 ∧ Text.IsWord p.2 := by
  simp only [Neighbor.phrases, List.mem_append, List.mem_cons, List.not_mem_nil, or_false,
    Option.mem_toList, Option.map_eq_some_iff] at hp
  rcases hp with (((rfl | ⟨a, -, rfl⟩) | rfl | rfl) | ⟨id, -, rfl⟩) | rfl
  · exact ⟨isWord_key "neighbor" (by decide), isWord_render _⟩
  · exact ⟨isWord_key "local-ip" (by decide), isWord_render _⟩
  · exact ⟨isWord_key "local-as" (by decide), isWord_toString _⟩
  · exact ⟨isWord_key "peer-as" (by decide), isWord_toString _⟩
  · exact ⟨isWord_key "router-id" (by decide), isWord_render (.v4 id)⟩
  · exact ⟨isWord_key "family-allowed" (by decide), isWord_familyPhrase _⟩

/-- The phrases of a name, one word behind the other. -/
def phraseWords (phrases : List (String × String)) : List String :=
  phrases.flatMap fun (key, value) => [key, value]

theorem words_name (n : Neighbor) : Text.words n.name = phraseWords n.phrases := by
  apply Text.words_unwords
  intro word hword
  obtain ⟨p, hp, hmem⟩ := List.mem_flatMap.mp hword
  obtain ⟨hkey, hvalue⟩ := isWord_of_mem_phrases hp
  simp only [List.mem_cons, List.not_mem_nil, or_false] at hmem
  rcases hmem with rfl | rfl
  · exact hkey
  · exact hvalue

/-! ## Neighboring words -/

theorem neighboring_cons (first second : String) (rest : List String) :
    Selector.neighboring (first :: second :: rest) =
      (first, second) :: Selector.neighboring (second :: rest) := rfl

theorem mem_neighboring_cons {key value word : String} (hword : word ≠ key) (ws : List String) :
    (key, value) ∈ Selector.neighboring (word :: ws) ↔ (key, value) ∈ Selector.neighboring ws := by
  cases ws with
  | nil => simp [Selector.neighboring]
  | cons next rest =>
    rw [neighboring_cons, List.mem_cons, Prod.mk.injEq]
    simp [hword.symm]

theorem mem_neighboring_phraseWords {front : List (String × String)} {last : String × String}
    {key value : String} (hfront : ∀ p ∈ front, p.2 ≠ key) :
    (key, value) ∈ Selector.neighboring (phraseWords (front ++ [last])) ↔
      (key, value) ∈ front ++ [last] := by
  induction front with
  | nil =>
    obtain ⟨last, final⟩ := last
    simp [phraseWords, Selector.neighboring]
  | cons p rest ih =>
    have hcut : phraseWords (p :: rest ++ [last]) = p.1 :: p.2 :: phraseWords (rest ++ [last]) := rfl
    rw [hcut, neighboring_cons, List.mem_cons, mem_neighboring_cons (hfront p List.mem_cons_self),
      ih fun q hq => hfront q (List.mem_cons_of_mem _ hq), List.cons_append, List.mem_cons]

theorem exists_front (n : Neighbor) : ∃ front,
    n.phrases = front ++ [("family-allowed", Neighbor.familyPhrase n.families)] ∧
      ∀ p ∈ front, ∀ c ∈ p.2.toList, c ∈ Address.alphabet := by
  refine ⟨_, rfl, ?_⟩
  intro p hp c hc
  simp only [List.mem_append, List.mem_cons, List.not_mem_nil, or_false, Option.mem_toList,
    Option.map_eq_some_iff] at hp
  rcases hp with ((rfl | ⟨a, -, rfl⟩) | rfl | rfl) | ⟨id, -, rfl⟩
  · exact Address.mem_render hc
  · exact Address.mem_render hc
  · exact Address.mem_alphabet_of_mem_toString hc
  · exact Address.mem_alphabet_of_mem_toString hc
  · exact IPv4.mem_render hc

theorem key_not_subset_alphabet : ∀ key ∈ keys, ¬ key.toList ⊆ Address.alphabet := by decide

theorem mem_neighboring_name {key value : String} (hkey : key ∈ keys) :
    (key, value) ∈ Selector.neighboring (Text.words n.name) ↔ (key, value) ∈ n.phrases := by
  obtain ⟨front, hphrases, hfront⟩ := exists_front n
  rw [words_name, hphrases]
  apply mem_neighboring_phraseWords
  rintro p hp rfl
  exact key_not_subset_alphabet _ hkey fun c hc => hfront p hp c hc

/-! ## Matching -/

theorem toString_toNat_inj {a b : UInt32} : toString a.toNat = toString b.toNat ↔ a = b :=
  eq_iff_of_read Decimal.readUInt32?_toString

theorem address_mem_phrases {address : Address} :
    ("neighbor", address.render) ∈ n.phrases ↔ address = n.peerAddress := by
  simp [Neighbor.phrases, Address.render_inj]

theorem localAs_mem_phrases {text : String} :
    ("local-as", text) ∈ n.phrases ↔ text = toString n.localAs.toNat := by
  simp [Neighbor.phrases]

theorem peerAs_mem_phrases {text : String} :
    ("peer-as", text) ∈ n.phrases ↔ text = toString n.peerAs.toNat := by
  simp [Neighbor.phrases]

theorem qualifier_mem_phrases {q : Qualifier} : (q.key.render, q.value) ∈ n.phrases ↔ q.Holds n := by
  cases q with
  | localIp address =>
    simp [Neighbor.phrases, Qualifier.key, Qualifier.value, QualifierKey.render, Qualifier.Holds,
      Address.render_inj]
  | localAs asNumber => exact localAs_mem_phrases.trans toString_toNat_inj
  | peerAs asNumber => exact peerAs_mem_phrases.trans toString_toNat_inj
  | routerId id =>
    simp [Neighbor.phrases, Qualifier.key, Qualifier.value, QualifierKey.render, Qualifier.Holds,
      IPv4.render_inj]
  | familyAllowed families =>
    simp [Neighbor.phrases, Qualifier.key, Qualifier.value, QualifierKey.render, Qualifier.Holds]

theorem key_mem_keys (key : QualifierKey) : key.render ∈ keys := by
  cases key <;> decide

/-- A selector matches the name of a neighbor if it describes the neighbor. -/
theorem matchesName_iff (s : Selector) (n : Neighbor) :
    s.matchesName n.name = true ↔ s.Describes n := by
  simp only [Selector.matchesName, List.all_eq_true, decide_eq_true_eq]
  cases s with
  | any => simp [Selector.phrases, Selector.Describes]
  | peer address qualifiers =>
    have haddress : ("neighbor", address.render) ∈ Selector.neighboring (Text.words n.name) ↔
        address = n.peerAddress :=
      (mem_neighboring_name List.mem_cons_self).trans address_mem_phrases
    have hqualifier : ∀ q : Qualifier,
        (q.key.render, q.value) ∈ Selector.neighboring (Text.words n.name) ↔ q.Holds n := fun q =>
      (mem_neighboring_name (key_mem_keys q.key)).trans qualifier_mem_phrases
    simp only [Selector.phrases, List.forall_mem_cons, List.forall_mem_map, haddress, hqualifier,
      Selector.Describes]

end Words

/-! ## Descriptions -/

theorem mapM_eq_ok_iff {ε α β : Type} {f : α → Except ε β} {as : List α} {bs : List β} :
    as.mapM f = .ok bs ↔ List.Forall₂ (fun a b => f a = .ok b) as bs := by
  induction as generalizing bs with
  | nil =>
    rw [List.mapM_nil]
    constructor
    · intro h
      obtain rfl := Except.ok.inj h
      exact .nil
    · rintro ⟨⟩
      rfl
  | cons a rest ih =>
    rw [List.mapM_cons]
    simp only [bind_eq_ok_iff, ih]
    constructor
    · rintro ⟨b, hb, bs, hbs, hreturn⟩
      obtain rfl := Except.ok.inj hreturn
      exact .cons hb hbs
    · rintro (_ | ⟨hb, hbs⟩)
      exact ⟨_, hb, _, hbs, rfl⟩

theorem exists_of_mapM_eq_ok {ε α β : Type} {f : α → Except ε β} {as : List α} {bs : List β}
    (h : as.mapM f = .ok bs) {a : α} (ha : a ∈ as) : ∃ b, f a = .ok b := by
  have hall := mapM_eq_ok_iff.mp h
  induction hall with
  | nil => cases ha
  | cons hb hbs ih =>
    rcases List.mem_cons.mp ha with rfl | ha
    · exact ⟨_, hb⟩
    · exact ih (mapM_eq_ok_iff.mpr hbs) ha

theorem exists_of_mem_mapM {ε α β : Type} {f : α → Except ε β} {as : List α} {bs : List β}
    (h : as.mapM f = .ok bs) {b : β} (hb : b ∈ bs) : ∃ a ∈ as, f a = .ok b := by
  have hall := mapM_eq_ok_iff.mp h
  clear h
  induction hall with
  | nil => cases hb
  | cons hfirst hrest ih =>
    rcases List.mem_cons.mp hb with rfl | hb
    · exact ⟨_, List.mem_cons_self, hfirst⟩
    · obtain ⟨a, ha, hfa⟩ := ih hb
      exact ⟨a, List.mem_cons_of_mem _ ha, hfa⟩

theorem at_most_one_described {c : Configuration} (hc : c.IsDeclared) {s : Selector} (hs : s ≠ .any) :
    (c.neighbors.filter fun n => s.matchesName n.name).length ≤ 1 := by
  cases s with
  | any => exact absurd rfl hs
  | peer address qualifiers =>
    have hdistinct := hc.addresses.filter fun n => (Selector.peer address qualifiers).matchesName n.name
    have haddress : ∀ n ∈ c.neighbors.filter fun n => (Selector.peer address qualifiers).matchesName n.name,
        n.peerAddress = address := by
      intro n hn
      have hmatches := (List.mem_filter.mp hn).2
      exact ((matchesName_iff _ n).mp hmatches).1.symm
    revert hdistinct haddress
    generalize (c.neighbors.filter fun n => (Selector.peer address qualifiers).matchesName n.name) = chosen
    intro hdistinct haddress
    match chosen with
    | [] => exact Nat.zero_le 1
    | [_] => exact Nat.le_refl 1
    | n :: m :: rest =>
      have hne := List.rel_of_pairwise_cons hdistinct List.mem_cons_self
      exact absurd ((haddress n List.mem_cons_self).trans
        (haddress m (List.mem_cons_of_mem n List.mem_cons_self)).symm) hne

/-- The selectors of a description are what stands between its commas. Each matches the names of exactly the
neighbors that it describes; a star is for all neighbors, and any other selector for at most one neighbor
of a configuration. -/
theorem selectors_match_described {description : String} {selectors : List Selector}
    (h : Selector.parseAll description = .ok selectors) :
    List.Forall₂ (fun piece s => Selector.Said (Text.words piece) s ∧
        (∀ n : Neighbor, s.matchesName n.name = true ↔ s.Describes n) ∧
        (s ≠ .any → ∀ text c, Configuration.parse text = .ok c →
          (c.neighbors.filter fun n => s.matchesName n.name).length ≤ 1))
      (Text.splitOnChar ',' description) selectors := by
  refine (mapM_eq_ok_iff.mp h).imp fun piece s hs => ?_
  exact ⟨Selector.ofWords_eq_ok_iff.mp hs, matchesName_iff s, fun hany text c hc =>
    at_most_one_described (Configuration.isDeclared_of_parse hc) hany⟩

theorem one_of_two_described :
    let description := "10.0.0.1 peer-as 0065001,*"
    let text := "neighbor 10.0.0.1 \x7b local-as 65000 peer-as 65001 \x7d" ++
      "neighbor 10.0.0.2 \x7b local-as 65000 peer-as 65001 \x7d"
    let s := Selector.peer (.v4 ⟨10, 0, 0, 1⟩) [.peerAs 65001]
    let n : Neighbor := { peerAddress := .v4 ⟨10, 0, 0, 1⟩, localAs := 65000, peerAs := 65001, holdTime := 180 }
    let c := Configuration.ofNeighbors [n, { n with peerAddress := .v4 ⟨10, 0, 0, 2⟩ }]
    Selector.parseAll description = .ok [s, .any] ∧ Configuration.parse text = .ok c ∧
      (s.matchesName n.name = true ↔ s.Describes n) ∧
      (c.neighbors.filter fun n => s.matchesName n.name).length ≤ 1 := by
  intro description text s n c
  have hdescription : Selector.parseAll description = .ok [s, .any] := toOption_eq_some_iff.mp (by decide +kernel)
  have htext : Configuration.parse text = .ok c := toOption_eq_some_iff.mp (by decide +kernel)
  have hpieces : Text.splitOnChar ',' description = ["10.0.0.1 peer-as 0065001", "*"] := by decide +kernel
  have hdescribed := selectors_match_described hdescription
  rw [hpieces] at hdescribed
  obtain ⟨⟨-, hmatches, hone⟩, -⟩ := List.forall₂_cons.mp hdescribed
  exact ⟨hdescription, htext, hmatches n, hone Selector.noConfusion text c htext⟩

end Command

end RouteServer
