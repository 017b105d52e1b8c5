import RouteServer.Command.Standard
import RouteServer.Proofs.Command.Selection

/-! # Selectors print back to themselves

The text of a selector is a description of it. Joined by commas, the texts of the selectors of a description are the
canonical description, from which the same selectors are read.
-/

namespace RouteServer.Command

/-! ## Words that can be written -/

/-- A word of a description. Neither white space nor a comma cuts it. -/
structure IsToken (word : String) : Prop extends Text.IsWord word where
  unjoined : ',' ∉ word.toList

theorem isToken_of_alphabet {word : String} (hne : word ≠ "")
    (h : ∀ c ∈ word.toList, c ∈ Address.alphabet) : IsToken word where
  toIsWord := isWord_of_alphabet hne h
  unjoined hmem := absurd (h ',' hmem) (by decide)

theorem isToken_render (a : Address) : IsToken a.render :=
  isToken_of_alphabet a.render_ne_empty fun _ => Address.mem_render

theorem isToken_toString (k : Nat) : IsToken (toString k) :=
  isToken_of_alphabet (Decimal.toString_ne_empty k) fun _ => Address.mem_alphabet_of_mem_toString

theorem isToken_key : ∀ key ∈ keys, IsToken key := by
  have hunjoined : ∀ key ∈ keys, ',' ∉ key.toList := by decide
  exact fun key hkey => ⟨isWord_key key hkey, hunjoined key hkey⟩

theorem isToken_of_mem_words {description piece word : String} (hpiece : piece ∈ Text.splitOnChar ',' description)
    (hword : word ∈ Text.words piece) : IsToken word := by
  obtain ⟨cs, hcs, rfl⟩ := List.mem_map.mp hpiece
  obtain ⟨hword, hsub⟩ := Text.of_mem_words hword
  refine ⟨hword, fun hcomma => Lists.notMem_of_mem_splitOn hcs ?_⟩
  simpa using hsub ',' hcomma

/-! ## Selectors that can be written -/

/-- Values are written in their canonical form. Only families are kept as they were read, so that they have to be
a word of a description. -/
def Qualifier.Writable : Qualifier → Prop
  | familyAllowed families => IsToken families
  | _ => True

def Selector.Writable : Selector → Prop
  | any => True
  | peer _ qualifiers => ∀ q ∈ qualifiers, q.Writable

theorem Qualifier.isToken_value {q : Qualifier} (h : q.Writable) : IsToken q.value := by
  cases q with
  | localIp address => exact isToken_render address
  | localAs asNumber => exact isToken_toString _
  | peerAs asNumber => exact isToken_toString _
  | routerId id => exact isToken_render (.v4 id)
  | familyAllowed families => exact h

theorem Qualifier.read?_value (q : Qualifier) : read? q.value q.key = some q := by
  cases q with
  | localIp address => simp [key, value, read?, Address.parse?_render]
  | localAs asNumber | peerAs asNumber =>
    simp only [key, value, read?, Decimal.readUInt32?_toString, Option.map_some]
  | routerId id => simp [key, value, read?, IPv4.parse?_render]
  | familyAllowed families => rfl

theorem Qualifier.writable_of_read? {text : String} {key : QualifierKey} {q : Qualifier} (htext : IsToken text)
    (h : read? text key = some q) : q.Writable := by
  cases key with
  | familyAllowed =>
    obtain rfl := Option.some.inj h
    exact htext
  | _ =>
    obtain ⟨_, -, rfl⟩ := Option.map_eq_some_iff.mp h
    trivial

theorem QualifiersSaid.writable {ws : List String} {qs : List Qualifier} (h : QualifiersSaid ws qs)
    (hws : ∀ word ∈ ws, IsToken word) : ∀ q ∈ qs, q.Writable := by
  induction h with
  | nil => exact fun q hq => nomatch hq
  | cons key value q hq ws qs hrest ih =>
    obtain ⟨-, hvalue, hws⟩ := List.forall_mem_cons.mp hws |>.imp_right List.forall_mem_cons.mp
    exact List.forall_mem_cons.mpr ⟨Qualifier.writable_of_read? hvalue hq, ih hws⟩

theorem Selector.Said.writable {ws : List String} {s : Selector} (h : Said ws s)
    (hws : ∀ word ∈ ws, IsToken word) : s.Writable := by
  cases h with
  | any => trivial
  | peer word address haddress ws qs hrest =>
    exact hrest.writable (List.forall_mem_cons.mp hws).2
  | neighbor word address haddress ws qs hrest =>
    exact hrest.writable (List.forall_mem_cons.mp (List.forall_mem_cons.mp hws).2).2

/-! ## The text of a selector -/

namespace Selector

def tokens : Selector → List String
  | any => ["*"]
  | s => phraseWords s.phrases

theorem render_eq (s : Selector) : s.render = Text.unwords s.tokens := by
  cases s <;> rfl

theorem isToken_of_mem_tokens {s : Selector} (h : s.Writable) : ∀ word ∈ s.tokens, IsToken word := by
  cases s with
  | any =>
    have hstar : IsToken "*" := ⟨by decide, by decide⟩
    simpa [tokens] using hstar
  | peer address qualifiers =>
    have hphrases : ∀ p ∈ (peer address qualifiers).phrases, IsToken p.1 ∧ IsToken p.2 := by
      refine List.forall_mem_cons.mpr ⟨⟨isToken_key _ List.mem_cons_self, isToken_render address⟩, ?_⟩
      exact List.forall_mem_map.mpr fun q hq =>
        ⟨isToken_key _ (key_mem_keys q.key), Qualifier.isToken_value (h q hq)⟩
    intro word hword
    obtain ⟨p, hp, hmem⟩ := List.mem_flatMap.mp hword
    obtain ⟨hkey, hvalue⟩ := hphrases p hp
    simp only [List.mem_cons, List.not_mem_nil, or_false] at hmem
    rcases hmem with rfl | rfl
    · exact hkey
    · exact hvalue

theorem said_phraseWords (qs : List Qualifier) :
    QualifiersSaid (phraseWords (qs.map fun q => (q.key.render, q.value))) qs := by
  induction qs with
  | nil => exact .nil
  | cons q rest ih => exact .cons q.key q.value q q.read?_value _ rest ih

theorem said_tokens (s : Selector) : Said s.tokens s := by
  cases s with
  | any => exact .any
  | peer address qualifiers =>
    exact .neighbor address.render address address.parse?_render _ qualifiers (said_phraseWords qualifiers)

theorem ofWords_words_render {s : Selector} (h : s.Writable) : ofWords (Text.words s.render) = .ok s := by
  rw [render_eq, Text.words_unwords fun word hword => (isToken_of_mem_tokens h word hword).toIsWord]
  exact ofWords_eq_ok_iff.mpr s.said_tokens

theorem comma_notMem_render {s : Selector} (h : s.Writable) : ',' ∉ s.render.toList := by
  intro hmem
  rw [render_eq, Text.unwords, String.toList_intercalate] at hmem
  rcases Lists.mem_of_mem_intercalate hmem with hspace | ⟨cs, hcs, hmem⟩
  · exact absurd hspace (by decide)
  · obtain ⟨word, hword, rfl⟩ := List.mem_map.mp hcs
    exact (isToken_of_mem_tokens h word hword).unjoined hmem

/-! ## Descriptions -/

/-- The canonical description of some selectors. -/
def renderAll (selectors : List Selector) : String := ",".intercalate (selectors.map render)

theorem splitOnChar_renderAll {selectors : List Selector} (hne : selectors ≠ [])
    (h : ∀ s ∈ selectors, s.Writable) :
    Text.splitOnChar ',' (renderAll selectors) = selectors.map render := by
  refine Text.splitOnChar_intercalate rfl (by simpa using hne) fun text htext => ?_
  obtain ⟨s, hs, rfl⟩ := List.mem_map.mp htext
  exact comma_notMem_render (h s hs)

theorem parseAll_renderAll {selectors : List Selector} (hne : selectors ≠ [])
    (h : ∀ s ∈ selectors, s.Writable) : parseAll (renderAll selectors) = .ok selectors := by
  rw [parseAll, splitOnChar_renderAll hne h, mapM_eq_ok_iff, List.forall₂_map_left_iff, List.forall₂_same]
  exact fun s hs => ofWords_words_render (h s hs)

variable {description : String} {selectors : List Selector}

theorem ne_nil_of_parseAll (h : parseAll description = .ok selectors) : selectors ≠ [] := by
  rintro rfl
  have hpieces := List.forall₂_nil_right_iff.mp (mapM_eq_ok_iff.mp h)
  simp [Text.splitOnChar, List.splitOn_ne_nil] at hpieces

theorem writable_of_parseAll (h : parseAll description = .ok selectors) : ∀ s ∈ selectors, s.Writable := by
  intro s hs
  obtain ⟨piece, hpiece, hread⟩ := exists_of_mem_mapM h hs
  exact (ofWords_eq_ok_iff.mp hread).writable fun word hword => isToken_of_mem_words hpiece hword

end Selector

theorem Teardown.parse_of_parseAll_eq {description other word : String} (hword : ' ' ∉ word.toList)
    {selectors : List Selector} (h : Selector.parseAll description = .ok selectors)
    (hother : Selector.parseAll other = .ok selectors) :
    Request.parse (description ++ " " ++ word) = Request.parse (other ++ " " ++ word) := by
  simp only [Request.parse, Text.splitLastSpace_append _ hword, h, hother]

/-- From the canonical description of some selectors the same selectors are read, whatever the description looked
like that they came from. It is its own canonical description, and it asks for the same sessions to be torn down. -/
theorem selectors_read_back {description : String} {selectors : List Selector}
    (h : Selector.parseAll description = .ok selectors) :
    let canonical := Selector.renderAll selectors
    Selector.parseAll canonical = .ok selectors ∧
      (Selector.parseAll canonical).map Selector.renderAll = .ok canonical ∧
      ∀ word, ' ' ∉ word.toList →
        Teardown.Request.parse (canonical ++ " " ++ word) = Teardown.Request.parse (description ++ " " ++ word) := by
  intro canonical
  have hagain : Selector.parseAll canonical = .ok selectors :=
    Selector.parseAll_renderAll (Selector.ne_nil_of_parseAll h) (Selector.writable_of_parseAll h)
  exact ⟨hagain, by rw [hagain]; rfl, fun word hword => Teardown.parse_of_parseAll_eq hword hagain h⟩

theorem canonical_of_odd_spelling :
    let description := " neighbor 2001:DB8:0::0:1\tpeer-as +0065001 family-allowed 6  peer-as 1 ,*"
    let canonical := "neighbor 2001:db8::1 peer-as 65001 family-allowed 6 peer-as 1,*"
    let selectors : List Selector :=
      [.peer (.v6 ⟨#v[0x2001, 0xDB8, 0, 0, 0, 0, 0, 1]⟩) [.peerAs 65001, .familyAllowed "6", .peerAs 1], .any]
    Selector.parseAll description = .ok selectors ∧ Selector.renderAll selectors = canonical ∧
      Selector.parseAll canonical = .ok selectors ∧
      Teardown.Request.parse (canonical ++ " " ++ "007") = Teardown.Request.parse (description ++ " " ++ "007") := by
  intro description canonical selectors
  have hdescription : Selector.parseAll description = .ok selectors := toOption_eq_some_iff.mp (by decide +kernel)
  have hcanonical : Selector.renderAll selectors = canonical := by decide +kernel
  obtain ⟨hagain, -, hrequest⟩ := selectors_read_back hdescription
  rw [hcanonical] at hagain hrequest
  exact ⟨hdescription, hcanonical, hagain, hrequest "007" (by decide)⟩

end RouteServer.Command
