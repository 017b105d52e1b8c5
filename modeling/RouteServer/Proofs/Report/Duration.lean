import RouteServer.Proofs.Numerals
import RouteServer.Proofs.Text
import RouteServer.Report.Table

/-! # Durations are read back

The text of a duration is a number of days, if there are any, and a time of day. It is read in one way only, so that
different durations have different texts.
-/

namespace RouteServer

namespace Report

/-! ## Days and the time of day -/

@[ext]
structure Elapsed where
  days : Nat
  hours : Nat
  minutes : Nat
  seconds : Nat
  hours_lt : hours < 24 := by omega
  minutes_lt : minutes < 60 := by omega
  seconds_lt : seconds < 60 := by omega

namespace Elapsed

def total (e : Elapsed) : Nat := e.days * 86400 + e.hours * 3600 + e.minutes * 60 + e.seconds

def ofSeconds (n : Nat) : Elapsed where
  days := n / 86400
  hours := n % 86400 / 3600
  minutes := n % 86400 % 3600 / 60
  seconds := n % 86400 % 60

theorem total_ofSeconds (n : Nat) : (ofSeconds n).total = n := by
  simp only [total, ofSeconds]
  omega

theorem total_injective {e e' : Elapsed} (h : e.total = e'.total) : e = e' := by
  obtain ⟨days, hours, minutes, seconds, _, _, _⟩ := e
  obtain ⟨days', hours', minutes', seconds', _, _, _⟩ := e'
  simp only [total] at h
  simp only [mk.injEq]
  omega

end Elapsed

/-! ## How they are written -/

/-- Digits with a value. There may be zeros in front. -/
structure Numeral (text : String) (n : Nat) : Prop where
  nonempty : text ≠ ""
  digits : ∀ c ∈ text.toList, c.isDigit = true
  value : Nat.ofDigitChars 10 text.toList 0 = n

/-- Only the number zero begins with a zero. -/
def Unpadded (text : String) : Prop := text = "0" ∨ text.toList.head? ≠ some '0'

/-- The days in front: none, one, or several. -/
inductive DayPart : String → Nat → Prop
  | absent : DayPart "" 0
  | single : DayPart "1 day, " 1
  | several (word : String) (days : Nat) (hword : Numeral word days) (hunpadded : Unpadded word)
    (hdays : 1 < days) : DayPart (word ++ " days, ") days

/-- The days, the hours without padding, and the minutes and the seconds with two digits each. -/
inductive Elapsed.Written (e : Elapsed) : String → Prop
  | intro (days hours minutes seconds : String) (hdays : DayPart days e.days)
    (hhours : Numeral hours e.hours) (hunpadded : Unpadded hours)
    (hminutes : Numeral minutes e.minutes) (hseconds : Numeral seconds e.seconds)
    (htwo : minutes.length = 2 ∧ seconds.length = 2) :
    Written e (days ++ (hours ++ ":" ++ minutes ++ ":" ++ seconds))

/-! ## Reading -/

theorem numeral_toString (n : Nat) : Numeral (toString n) n where
  nonempty := Decimal.toString_ne_empty n
  digits c hc := by
    rw [Decimal.toList_toString] at hc
    exact Nat.isDigit_of_mem_toDigits (by decide) (by decide) hc
  value := by rw [Decimal.toList_toString, Nat.ofDigitChars_ten_toDigits]

namespace Numeral

variable {text : String} {n : Nat}

theorem isWord (h : Numeral text n) : Text.IsWord text where
  nonempty := h.nonempty
  unbroken c hc := Text.isBlank_of_isDigit (h.digits c hc)

theorem colon_notMem (h : Numeral text n) : ':' ∉ text.toList := fun hmem => nomatch h.digits ':' hmem

theorem eq_value {m : Nat} (h : Numeral text n) (h' : Numeral text m) : n = m := h.value.symm.trans h'.value

end Numeral

/-- The words of a number of days: none, or a number and its unit. -/
inductive DayWords : List String → Nat → Prop
  | absent : DayWords [] 0
  | counted (word unit : String) (days : Nat) (hword : Numeral word days) : DayWords [word, unit] days

theorem DayWords.eq {ws : List String} {m n : Nat} (hm : DayWords ws m) (hn : DayWords ws n) : m = n := by
  cases hm with
  | absent =>
    cases hn
    rfl
  | counted word unit m hword =>
    cases hn with
    | counted _ _ _ hword' => exact hword.eq_value hword'

theorem DayPart.words_append {days clock : String} {n : Nat} (h : DayPart days n) (hclock : Text.IsWord clock) :
    ∃ front, DayWords front n ∧ Text.words (days ++ clock) = front ++ [clock] := by
  have hcut (word unit : String) (hword : Text.IsWord word) (hunit : Text.IsWord unit) :
      Text.words (word ++ " " ++ (unit ++ " " ++ clock)) = [word, unit] ++ [clock] := by
    rw [Text.words_append_space, Text.words_append_space, Text.words_word hword, Text.words_word hunit,
      Text.words_word hclock]
    rfl
  cases h with
  | absent => exact ⟨[], .absent, by rw [String.empty_append, Text.words_word hclock]; rfl⟩
  | single =>
    have htext : "1 day, " ++ clock = "1" ++ " " ++ ("day," ++ " " ++ clock) := String.toList_inj.mp (by simp)
    rw [htext]
    exact ⟨_, .counted "1" "day," 1 (numeral_toString 1), hcut "1" "day," (by decide) (by decide)⟩
  | several word _ hword hunpadded hdays =>
    have htext : word ++ " days, " ++ clock = word ++ " " ++ ("days," ++ " " ++ clock) :=
      String.toList_inj.mp (by simp)
    rw [htext]
    exact ⟨_, .counted word "days," n hword, hcut word "days," hword.isWord (by decide)⟩

theorem splitOnChar_clock {hours minutes seconds : String} (hhours : ':' ∉ hours.toList)
    (hminutes : ':' ∉ minutes.toList) (hseconds : ':' ∉ seconds.toList) :
    Text.splitOnChar ':' (hours ++ ":" ++ minutes ++ ":" ++ seconds) = [hours, minutes, seconds] := by
  have hjoined : hours ++ ":" ++ minutes ++ ":" ++ seconds = ":".intercalate [hours, minutes, seconds] :=
    String.toList_inj.mp (by simp)
  rw [hjoined, Text.splitOnChar_intercalate rfl (List.cons_ne_nil _ _)]
  simp [hhours, hminutes, hseconds]

theorem isWord_clock {hours minutes seconds : String} (hhours : Text.IsWord hours)
    (hminutes : Text.IsWord minutes) (hseconds : Text.IsWord seconds) :
    Text.IsWord (hours ++ ":" ++ minutes ++ ":" ++ seconds) := by
  have hclock : hours ++ ":" ++ minutes ++ ":" ++ seconds = ":".intercalate [hours, minutes, seconds] :=
    String.toList_inj.mp (by simp)
  have hcolon : Text.IsWord ":" := by decide
  rw [hclock]
  refine Text.IsWord.intercalate hcolon.unbroken (List.cons_ne_nil _ _) ?_
  simp [hhours, hminutes, hseconds]

theorem Elapsed.Written.eq {e e' : Elapsed} {text : String} (h : e.Written text) (h' : e'.Written text) :
    e = e' := by
  obtain ⟨days, hours, minutes, seconds, hdays, hhours, -, hminutes, hseconds, -⟩ := h
  generalize htext : days ++ (hours ++ ":" ++ minutes ++ ":" ++ seconds) = text at h'
  obtain ⟨days', hours', minutes', seconds', hdays', hhours', -, hminutes', hseconds', -⟩ := h'
  -- The words tell the days from the clock, and the colons cut the clock.
  obtain ⟨front, hfront, hwords⟩ :=
    hdays.words_append (isWord_clock hhours.isWord hminutes.isWord hseconds.isWord)
  obtain ⟨front', hfront', hwords'⟩ :=
    hdays'.words_append (isWord_clock hhours'.isWord hminutes'.isWord hseconds'.isWord)
  rw [htext, hwords'] at hwords
  obtain ⟨rfl, hclock⟩ := List.append_inj' hwords rfl
  have hparts := congrArg (Text.splitOnChar ':') (List.singleton_inj.mp hclock)
  rw [splitOnChar_clock hhours.colon_notMem hminutes.colon_notMem hseconds.colon_notMem,
    splitOnChar_clock hhours'.colon_notMem hminutes'.colon_notMem hseconds'.colon_notMem] at hparts
  simp only [List.cons.injEq, and_true] at hparts
  obtain ⟨rfl, rfl, rfl⟩ := hparts
  exact Elapsed.ext (hfront.eq hfront') (hhours.eq_value hhours') (hminutes.eq_value hminutes')
    (hseconds.eq_value hseconds')

/-! ## Writing -/

theorem unpadded_toString (n : Nat) : Unpadded (toString n) := by
  by_cases hn : n = 0
  · exact .inl (hn ▸ rfl)
  · right
    rw [Decimal.toList_toString]
    exact Decimal.head?_toDigits_ne hn

theorem numeral_twoDigits (n : Nat) : Numeral (Decimal.twoDigits n) n := by
  unfold Decimal.twoDigits Decimal.render
  split
  · have hplain := numeral_toString n
    refine ⟨?_, ?_, ?_⟩
    · simp [String.append_eq_empty_iff]
    · rw [String.toList_append, List.forall_mem_append]
      exact ⟨(numeral_toString 0).digits, hplain.digits⟩
    · rw [String.toList_append]
      exact hplain.value
  · exact numeral_toString n

theorem length_twoDigits {n : Nat} (h : n < 60) : (Decimal.twoDigits n).length = 2 := by
  rw [← String.length_toList]
  unfold Decimal.twoDigits Decimal.render
  split
  · rename_i hlt
    rw [String.toList_append, Decimal.toList_toString, Nat.toDigits_of_lt_base hlt]
    rfl
  · rename_i hge
    rw [Decimal.toList_toString, Nat.toDigits_of_base_le (by decide) (by omega),
      Nat.toDigits_of_lt_base (by omega)]
    rfl

theorem dayPart_spec (n : Nat) : DayPart (dayPart n) n := by
  match n with
  | 0 => exact .absent
  | 1 => exact .single
  | n + 2 => exact .several _ _ (numeral_toString _) (unpadded_toString _) (by omega)

theorem written_duration (n : Nat) : (Elapsed.ofSeconds n).Written (duration n) := by
  have hminutes := length_twoDigits (Elapsed.ofSeconds n).minutes_lt
  have hseconds := length_twoDigits (Elapsed.ofSeconds n).seconds_lt
  exact .intro _ _ _ _ (dayPart_spec _) (numeral_toString _) (unpadded_toString _) (numeral_twoDigits _)
    (numeral_twoDigits _) ⟨hminutes, hseconds⟩

/-- The text of a duration says its days and the time of day, and nothing else can be read from it, so that different
durations have different texts. -/
theorem duration_said_once :
    (∀ n, ∃ e : Elapsed, e.total = n ∧ e.Written (duration n)) ∧
      (∀ n, ∀ e : Elapsed, e.Written (duration n) ↔ e.total = n) ∧
      ∀ m n, duration m = duration n ↔ m = n := by
  have hread : ∀ n, ∀ e : Elapsed, e.Written (duration n) ↔ e.total = n := by
    intro n e
    constructor
    · intro h
      rw [h.eq (written_duration n), Elapsed.total_ofSeconds]
    · rintro rfl
      have hwritten := written_duration e.total
      rwa [Elapsed.total_injective (Elapsed.total_ofSeconds e.total)] at hwritten
  refine ⟨fun n => ⟨_, Elapsed.total_ofSeconds n, written_duration n⟩, hread, fun m n => ⟨fun heq => ?_, ?_⟩⟩
  · have hwritten : (Elapsed.ofSeconds m).Written (duration n) := heq ▸ written_duration m
    exact (Elapsed.total_ofSeconds m).symm.trans ((hread n _).mp hwritten)
  · rintro rfl
    rfl

example : duration 86399 = "23:59:59" ∧ duration 86400 = "1 day, 0:00:00" := by decide +kernel

end Report

end RouteServer
