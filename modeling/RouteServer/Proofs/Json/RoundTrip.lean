import Mathlib.Data.List.TakeWhile
import RouteServer.Json.Printer
import RouteServer.Proofs.Json.Reader
import RouteServer.Proofs.Lists
import RouteServer.Proofs.Numerals

/-! # What is written is read back

A value without other numbers than whole ones is read back from its text, whatever the names and strings in it
are, and the text has no control characters.
-/

namespace RouteServer.Json

/-- A value that all readers agree on: its numbers are whole, and no name stands twice in an object. -/
inductive Value.Exact : Value → Prop
  | null : Exact .null
  | bool (b : Bool) : Exact (.bool b)
  | integer (n : Int) : Exact (.integer n)
  | string (s : String) : Exact (.string s)
  | array (items : List Value) (hitems : ∀ v ∈ items, Exact v) : Exact (.array items)
  | object (members : List (String × Value)) (hnames : (members.map (·.1)).Nodup)
    (hmembers : ∀ m ∈ members, Exact m.2) : Exact (.object members)

namespace State

variable {c : Char} {cs rest : List Char} {ctx : Context} {frames : List Frame} {s : Inside}

theorem run_cons {st st' : State} (h : st.step c = some st') : st.run (c :: rest) = st'.run rest := by
  rw [run, h]
  rfl

/-! ## Strings -/

theorem hexDigit?_hexDigit : ∀ n < 16, IPv6.hexDigit? (hexDigit n) = some n := by decide

theorem run_escape (c : Char) (text : List Char) :
    run ⟨.quoted { chars := text }, ctx⟩ (escape c ++ rest) =
      run ⟨.quoted { chars := c :: text }, ctx⟩ rest := by
  unfold escape
  split
  case isTrue hc => rcases hc with rfl | rfl <;> rfl
  case isFalse hc =>
    -- Each of the next five characters has an escape of its own.
    iterate 5
      split
      · rename_i heq
        subst heq
        rfl
    split
    case isTrue hlow =>
      have hhigh := hexDigit?_hexDigit (c.toNat / 16) (by omega)
      have hrest := hexDigit?_hexDigit (c.toNat % 16) (by omega)
      have hunit : Inside.unit { chars := text } c.toNat = some { chars := c :: text } := by
        have hpair : ¬ 0xD800 ≤ c.toNat := by omega
        have hhalf : ¬ 0xDC00 ≤ c.toNat := by omega
        simp [Inside.unit, Inside.char, hpair, hhalf]
      have hthird : step ⟨.unit { chars := text } [0, 0], ctx⟩ (hexDigit (c.toNat / 16)) =
          some ⟨.unit { chars := text } [0, 0, c.toNat / 16], ctx⟩ := by
        simp [step, hhigh]
      have hfourth : step ⟨.unit { chars := text } [0, 0, c.toNat / 16], ctx⟩ (hexDigit (c.toNat % 16)) =
          some ⟨.quoted { chars := c :: text }, ctx⟩ := by
        have hvalue : 16 * (c.toNat / 16) + c.toNat % 16 = c.toNat := Nat.div_add_mod ..
        simp [step, hrest, hvalue, hunit]
      exact (run_cons hthird).trans (run_cons hfourth)
    case isFalse hlow =>
      have hplain : step ⟨.quoted { chars := text }, ctx⟩ c = some ⟨.quoted { chars := c :: text }, ctx⟩ := by
        simp only [not_or] at hc
        simp [step, hc, hlow, Inside.char]
      exact run_cons hplain

theorem run_escapes (text read : List Char) :
    run ⟨.quoted { chars := read }, ctx⟩ (text.flatMap escape ++ rest) =
      run ⟨.quoted { chars := text.reverse ++ read }, ctx⟩ rest := by
  induction text generalizing read with
  | nil => rfl
  | cons c text ih =>
    rw [List.flatMap_cons, List.append_assoc, run_escape, ih]
    simp

theorem run_renderString (text : String) :
    run ⟨.gap, ctx⟩ ((renderString text).toList ++ rest) =
      (ctx.step (.scalar (.string text))).bind fun ctx' => run ⟨.gap, ctx'⟩ rest := by
  have hopen : step ⟨.gap, ctx⟩ '"' = some ⟨.quoted {}, ctx⟩ := rfl
  have hclose : step ⟨.quoted { chars := text.toList.reverse }, ctx⟩ '"' =
      (ctx.step (.scalar (.string text))).bind fun ctx' => some ⟨.gap, ctx'⟩ := by
    simp [step, Inside.close]
  rw [renderString, String.toList_ofList, List.append_assoc, List.append_assoc, List.singleton_append,
    run_cons hopen, run_escapes, List.append_nil, List.singleton_append, run, hclose]
  exact Option.bind_assoc ..

/-! ## Literals and numbers -/

/-- A text without an end of a literal or a number in it. -/
def StaysBare (cs : List Char) : Prop := ∀ c ∈ cs, endsBare c = false

instance (cs : List Char) : Decidable (StaysBare cs) := List.decidableBAll _ cs

/-- A text that may follow a literal or a number. -/
def Ends (cs : List Char) : Prop := ∀ c ∈ cs.head?, endsBare c = true

theorem begin_of_not_endsBare (h : endsBare c = false) (ctx : Context) :
    ctx.begin c = some ⟨.bare [c], ctx⟩ := by
  simp only [endsBare, Bool.or_eq_false_iff, decide_eq_false_iff_not, Option.isSome_eq_false_iff,
    Option.isNone_iff_eq_none] at h
  obtain ⟨⟨hblank, hquote⟩, hmark⟩ := h
  simp [Context.begin, hblank, hquote, hmark]

theorem run_bare {v : Value} {read : List Char} (hcs : StaysBare cs)
    (hv : bare? (read.reverse ++ cs) = some v) (hrest : Ends rest) :
    run ⟨.bare read, ctx⟩ (cs ++ rest) =
      (ctx.step (.scalar v)).bind fun ctx' => run ⟨.gap, ctx'⟩ rest := by
  induction cs generalizing read with
  | nil =>
    rw [List.append_nil] at hv
    cases rest with
    | nil =>
      simp only [List.nil_append, run, finish, hv, Option.bind_eq_bind, Option.bind_some]
    | cons c rest =>
      have hc : endsBare c = true := hrest c rfl
      simp only [List.nil_append, run, step, hc, if_true, hv, Option.bind_eq_bind, Option.bind_some,
        Option.bind_assoc]
  | cons c cs ih =>
    have hc := hcs c List.mem_cons_self
    have hstep : step ⟨.bare read, ctx⟩ c = some ⟨.bare (c :: read), ctx⟩ := by
      simp [step, hc]
    rw [List.cons_append, run_cons hstep]
    exact ih (fun c hc => hcs c (List.mem_cons_of_mem _ hc)) (by simpa using hv)

theorem run_scalar {v : Value} (hcs : StaysBare cs) (hne : cs ≠ []) (hv : bare? cs = some v)
    (hrest : Ends rest) :
    run ⟨.gap, ctx⟩ (cs ++ rest) = (ctx.step (.scalar v)).bind fun ctx' => run ⟨.gap, ctx'⟩ rest := by
  obtain ⟨c, cs, rfl⟩ := List.exists_cons_of_ne_nil hne
  have hbegin : step ⟨.gap, ctx⟩ c = some ⟨.bare [c], ctx⟩ :=
    begin_of_not_endsBare (hcs c List.mem_cons_self) ctx
  rw [List.cons_append, run_cons hbegin]
  exact run_bare (fun c hc => hcs c (List.mem_cons_of_mem _ hc)) hv hrest

end State

theorem whole?_toDigits (n : Nat) : whole? (Nat.toDigits 10 n) = some n := by
  have hzeros : ¬((Nat.toDigits 10 n).head? = some '0' ∧ Nat.toDigits 10 n ≠ ['0']) := by
    rintro ⟨hhead, hne⟩
    have hn : n ≠ 0 := by
      rintro rfl
      exact hne rfl
    exact Decimal.head?_toDigits_ne hn hhead
  rw [whole?, if_neg hzeros, Decimal.digits?_toDigits]

theorem unsigned?_toDigits (n : Nat) : unsigned? (Nat.toDigits 10 n) = some (.inl n) := by
  have hdigits : ∀ c ∈ Nat.toDigits 10 n, c.isDigit = true := fun c =>
    Nat.isDigit_of_mem_toDigits (by decide) (by decide)
  simp [unsigned?, List.takeWhile_eq_self_iff.mpr hdigits, List.dropWhile_eq_nil_iff.mpr hdigits,
    whole?_toDigits]

theorem staysBare_toDigits (n : Nat) : State.StaysBare (Nat.toDigits 10 n) := by
  have hall : ∀ d < 10, endsBare (Nat.digitChar d) = false := by decide
  intro c hc
  obtain ⟨d, hd, rfl⟩ := Decimal.exists_digit_of_mem_toDigits (by decide) hc
  exact hall d hd

theorem bare?_toDigits (n : Nat) : bare? (Nat.toDigits 10 n) = some (.integer n) := by
  have hdigits : ∀ c ∈ Nat.toDigits 10 n, c.isDigit = true := fun c =>
    Nat.isDigit_of_mem_toDigits (by decide) (by decide)
  have hread := unsigned?_toDigits n
  generalize Nat.toDigits 10 n = cs at hdigits hread
  unfold bare?
  split
  case h_4 =>
    unfold number?
    split
    · cases hdigits '-' List.mem_cons_self
    · rw [hread]
      rfl
  -- No literal begins with a digit.
  all_goals cases hdigits _ List.mem_cons_self

theorem toList_toString_int (n : Int) : ∃ m : Nat, (toString n).toList = Nat.toDigits 10 m ∧ n = m ∨
    (toString n).toList = '-' :: Nat.toDigits 10 m ∧ n = -m := by
  cases n with
  | ofNat m => exact ⟨m, .inl ⟨Decimal.toList_toString m, rfl⟩⟩
  | negSucc m =>
    have htext : toString (Int.negSucc m) = "-" ++ toString (m + 1) := rfl
    exact ⟨m + 1, .inr ⟨by rw [htext, String.toList_append, Decimal.toList_toString]; rfl, rfl⟩⟩

theorem bare?_toString (n : Int) : bare? (toString n).toList = some (.integer n) := by
  obtain ⟨m, ⟨htext, rfl⟩ | ⟨htext, rfl⟩⟩ := toList_toString_int n
  · rw [htext, bare?_toDigits]
  · rw [htext, bare?, number?, unsigned?_toDigits]
    · rfl
    all_goals simp

theorem toString_ne_nil (n : Int) : (toString n).toList ≠ [] := by
  obtain ⟨m, ⟨htext, -⟩ | ⟨htext, -⟩⟩ := toList_toString_int n
  · rw [htext]
    exact Nat.toDigits_ne_nil
  · rw [htext]
    exact List.cons_ne_nil _ _

theorem staysBare_toString (n : Int) : State.StaysBare (toString n).toList := by
  obtain ⟨m, ⟨htext, rfl⟩ | ⟨htext, rfl⟩⟩ := toList_toString_int n
  · rw [htext]
    exact staysBare_toDigits m
  · rw [htext]
    exact List.forall_mem_cons.mpr ⟨rfl, staysBare_toDigits m⟩

/-! ## Values -/

/-- A value is expected, which belongs into the frames. The first item of an array may be left out. -/
def Context.Awaits (ctx : Context) (frames : List Frame) : Prop :=
  ∀ lexeme, lexeme ≠ .closeArray → ctx.step lexeme = first frames lexeme

theorem awaits_value (frames : List Frame) : Context.Awaits ⟨frames, .value⟩ frames := fun _ _ => rfl

theorem awaits_firstItem (frames : List Frame) :
    Context.Awaits ⟨frames, .firstItem⟩ (.item [] :: frames) := by
  intro lexeme hlexeme
  cases lexeme <;> first | rfl | exact absurd rfl hlexeme

/-- The text is read as the value wherever one is expected. -/
def Reads (cs : List Char) (v : Value) : Prop :=
  ∀ ctx frames rest, ctx.Awaits frames → State.Ends rest →
    State.run ⟨.gap, ctx⟩ (cs ++ rest) = State.run ⟨.gap, .give v frames⟩ rest

/-- The text of a name and its value. -/
def memberText (m : String × Value) : List Char := (renderString m.1).toList ++ ':' :: m.2.render.toList

theorem renderItems_eq (items : List Value) : Value.renderItems items = items.map Value.render := by
  induction items with
  | nil => rfl
  | cons v rest ih => rw [Value.renderItems, ih, List.map_cons]

theorem renderMembers_eq (members : List (String × Value)) :
    Value.renderMembers members =
      members.map fun (name, v) => renderString name ++ ":" ++ v.render := by
  induction members with
  | nil => rfl
  | cons member rest ih => rw [Value.renderMembers, ih, List.map_cons]

theorem toList_array (items : List Value) : (Value.array items).render.toList =
    '[' :: [','].intercalate (items.map (·.render.toList)) ++ [']'] := by
  rw [Value.render, renderItems_eq]
  simp [String.toList_intercalate, Function.comp_def]

theorem toList_object (members : List (String × Value)) : (Value.object members).render.toList =
    '\x7b' :: [','].intercalate (members.map memberText) ++ ['\x7d'] := by
  rw [Value.render, renderMembers_eq]
  simp [String.toList_intercalate, Function.comp_def]
  rfl

namespace Reads

variable {cs rest : List Char} {v : Value} {frames : List Frame}

theorem of_bare (hcs : State.StaysBare cs) (hne : cs ≠ []) (hv : bare? cs = some v) :
    Reads cs v := by
  intro ctx frames rest hctx hrest
  rw [State.run_scalar hcs hne hv hrest, hctx _ Lexeme.noConfusion]
  rfl

theorem string (text : String) : Reads (renderString text).toList (.string text) := by
  intro ctx frames rest hctx hrest
  rw [State.run_renderString, hctx _ Lexeme.noConfusion]
  rfl

theorem ends_comma {texts : List (List Char)} {last : Char} (hlast : endsBare last = true) :
    State.Ends (texts.flatMap ([','] ++ ·) ++ last :: rest) := by
  cases texts with
  | nil => exact fun c hc => Option.some.inj hc ▸ hlast
  | cons text texts => exact fun c hc => Option.some.inj hc ▸ rfl

theorem items {later : List Value} (h : ∀ v ∈ later, Reads v.render.toList v) (read : List Value) :
    State.run ⟨.gap, frames, .nextItem read⟩
        ((later.map (·.render.toList)).flatMap ([','] ++ ·) ++ ']' :: rest) =
      State.run ⟨.gap, .give (.array (read ++ later)) frames⟩ rest := by
  induction later generalizing read with
  | nil =>
    rw [List.append_nil]
    exact State.run_cons rfl
  | cons v later ih =>
    obtain ⟨hv, hlater⟩ := List.forall_mem_cons.mp h
    have hcomma : State.step ⟨.gap, frames, .nextItem read⟩ ',' =
        some ⟨.gap, .item read :: frames, .value⟩ := rfl
    rw [List.map_cons, List.flatMap_cons, List.append_assoc, List.append_assoc, List.singleton_append,
      State.run_cons hcomma, hv _ _ _ (awaits_value _) (ends_comma rfl), List.append_cons read v later]
    exact ih hlater (read ++ [v])

theorem array {items : List Value} (h : ∀ v ∈ items, Reads v.render.toList v) :
    Reads (Value.array items).render.toList (.array items) := by
  intro ctx frames rest hctx hrest
  have hopen : State.step ⟨.gap, ctx⟩ '[' = some ⟨.gap, frames, .firstItem⟩ :=
    congrArg (Option.map (State.mk .gap)) (hctx .openArray Lexeme.noConfusion)
  rw [toList_array, List.append_assoc, List.cons_append, State.run_cons hopen]
  cases items with
  | nil => exact State.run_cons rfl
  | cons v later =>
    obtain ⟨hv, hlater⟩ := List.forall_mem_cons.mp h
    rw [List.map_cons, Lists.intercalate_cons_eq, List.append_assoc, List.singleton_append,
      hv _ _ _ (awaits_firstItem frames) (ends_comma rfl)]
    exact items hlater [v]

theorem member {m : String × Value} (h : Reads m.2.render.toList m.2) {ctx : Context}
    {read : List (String × Value)}
    (hname : ctx.step (.scalar (.string m.1)) = some ⟨frames, .colon read m.1⟩) (hrest : State.Ends rest) :
    State.run ⟨.gap, ctx⟩ (memberText m ++ rest) =
      State.run ⟨.gap, frames, .nextMember (read ++ [m])⟩ rest := by
  have hcolon : State.step ⟨.gap, frames, .colon read m.1⟩ ':' =
      some ⟨.gap, .member read m.1 :: frames, .value⟩ := rfl
  rw [memberText, List.append_assoc, List.cons_append, State.run_renderString, hname, Option.bind_some,
    State.run_cons hcolon, h _ _ _ (awaits_value _) hrest]
  rfl

theorem members {later : List (String × Value)} (h : ∀ m ∈ later, Reads m.2.render.toList m.2)
    (read : List (String × Value)) :
    State.run ⟨.gap, frames, .nextMember read⟩
        ((later.map memberText).flatMap ([','] ++ ·) ++ '\x7d' :: rest) =
      State.run ⟨.gap, .give (.object (read ++ later)) frames⟩ rest := by
  induction later generalizing read with
  | nil =>
    rw [List.append_nil]
    exact State.run_cons rfl
  | cons m later ih =>
    obtain ⟨hm, hlater⟩ := List.forall_mem_cons.mp h
    have hcomma : State.step ⟨.gap, frames, .nextMember read⟩ ',' = some ⟨.gap, frames, .name read⟩ := rfl
    rw [List.map_cons, List.flatMap_cons, List.append_assoc, List.append_assoc, List.singleton_append,
      State.run_cons hcomma, member hm rfl (ends_comma rfl), List.append_cons read m later]
    exact ih hlater (read ++ [m])

theorem object {members : List (String × Value)} (h : ∀ m ∈ members, Reads m.2.render.toList m.2) :
    Reads (Value.object members).render.toList (.object members) := by
  intro ctx frames rest hctx hrest
  have hopen : State.step ⟨.gap, ctx⟩ '\x7b' = some ⟨.gap, frames, .firstName⟩ :=
    congrArg (Option.map (State.mk .gap)) (hctx .openObject Lexeme.noConfusion)
  rw [toList_object, List.append_assoc, List.cons_append, State.run_cons hopen]
  cases members with
  | nil => exact State.run_cons rfl
  | cons m later =>
    obtain ⟨hm, hlater⟩ := List.forall_mem_cons.mp h
    rw [List.map_cons, Lists.intercalate_cons_eq, List.append_assoc, List.singleton_append,
      member hm rfl (ends_comma rfl)]
    exact Reads.members hlater [m]

end Reads

/-- An exact value is read back from its text, wherever a value is expected. -/
theorem Value.Exact.reads {v : Value} (h : v.Exact) : Reads v.render.toList v := by
  induction h with
  | null => exact .of_bare (by decide) (by decide) rfl
  | bool b => cases b <;> exact .of_bare (by decide) (by decide) rfl
  | integer n => exact .of_bare (staysBare_toString n) (toString_ne_nil n) (bare?_toString n)
  | string s => exact .string s
  | array items hitems ih => exact .array ih
  | object members hnames hmembers ih => exact .object ih

theorem Value.Exact.read_render {v : Value} (h : v.Exact) : read v.render = some v := by
  have hend : State.Ends [] := fun c hc => nomatch hc
  have hread := h.reads _ [] [] (awaits_value []) hend
  rw [List.append_nil] at hread
  exact hread

-- Other spellings of a value are read as well.
example : read " [\"\\uD83d\\ude00\", \x7b\"n\": -1\x7d]" =
    some (.array [.string "😀", .object [("n", .integer (-1))]]) := by rfl

/-! ## Control characters -/

/-- A text without the characters below the space. -/
def ControlFree (cs : List Char) : Prop := ∀ c ∈ cs, 32 ≤ c.toNat

instance (cs : List Char) : Decidable (ControlFree cs) := List.decidableBAll _ cs

theorem controlFree_hexDigit : ∀ n < 16, 32 ≤ (hexDigit n).toNat := by decide

theorem controlFree_escape (c : Char) : ControlFree (escape c) := by
  unfold escape
  split
  case isTrue hc => rcases hc with rfl | rfl <;> decide
  -- Each of the next five characters has an escape of its own.
  iterate 5
    split
    · decide
  split
  case isTrue hlow =>
    have hhigh := controlFree_hexDigit (c.toNat / 16) (by omega)
    have hrest := controlFree_hexDigit (c.toNat % 16) (by omega)
    simp only [ControlFree, List.forall_mem_cons, List.not_mem_nil, false_implies, implies_true, and_true]
    exact ⟨by decide, by decide, by decide, by decide, hhigh, hrest⟩
  case isFalse hlow => simpa [ControlFree] using hlow

theorem controlFree_renderString (text : String) : ControlFree (renderString text).toList := by
  rw [renderString, String.toList_ofList]
  intro c hc
  rcases List.mem_append.mp hc with hc | hc
  · rcases List.mem_append.mp hc with hc | hc
    · obtain rfl := List.mem_singleton.mp hc
      decide
    · obtain ⟨d, -, hc⟩ := List.mem_flatMap.mp hc
      exact controlFree_escape d c hc
  · obtain rfl := List.mem_singleton.mp hc
    decide

theorem controlFree_toString (n : Int) : ControlFree (toString n).toList := by
  have hall : ∀ d < 10, 32 ≤ (Nat.digitChar d).toNat := by decide
  have hdigits : ∀ m : Nat, ControlFree (Nat.toDigits 10 m) := by
    intro m c hc
    obtain ⟨d, hd, rfl⟩ := Decimal.exists_digit_of_mem_toDigits (by decide) hc
    exact hall d hd
  obtain ⟨m, ⟨htext, -⟩ | ⟨htext, -⟩⟩ := toList_toString_int n
  · rw [htext]
    exact hdigits m
  · rw [htext]
    exact List.forall_mem_cons.mpr ⟨by decide, hdigits m⟩

theorem controlFree_enclosed {first last : Char} (hfirst : 32 ≤ first.toNat) (hlast : 32 ≤ last.toNat)
    {texts : List (List Char)} (h : ∀ text ∈ texts, ControlFree text) :
    ControlFree (first :: [','].intercalate texts ++ [last]) := by
  intro c hc
  rcases List.mem_append.mp hc with hc | hc
  · rcases List.mem_cons.mp hc with rfl | hc
    · exact hfirst
    · rcases Lists.mem_of_mem_intercalate hc with hc | ⟨text, htext, hc⟩
      · obtain rfl := List.mem_singleton.mp hc
        decide
      · exact h text htext c hc
  · obtain rfl := List.mem_singleton.mp hc
    exact hlast

theorem Value.Exact.controlFree {v : Value} (h : v.Exact) : ControlFree v.render.toList := by
  induction h with
  | null => decide
  | bool b => cases b <;> decide
  | integer n => exact controlFree_toString n
  | string s => exact controlFree_renderString s
  | array items hitems ih =>
    rw [toList_array]
    exact controlFree_enclosed (by decide) (by decide) (List.forall_mem_map.mpr ih)
  | object members hnames hmembers ih =>
    rw [toList_object]
    refine controlFree_enclosed (by decide) (by decide) (List.forall_mem_map.mpr fun m hm => ?_)
    exact List.forall_mem_append.mpr
      ⟨controlFree_renderString m.1, List.forall_mem_cons.mpr ⟨by decide, ih m hm⟩⟩

end RouteServer.Json
