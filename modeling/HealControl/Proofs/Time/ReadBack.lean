import HealControl.Time.Rfc3339

/-!
# Timestamps that read back

The text of a timestamp is read as that timestamp: in every year of the calendar, in a leap second,
and to the nanosecond. The reader is followed from part to part. Each part is a number whose digits
end before the next mark (`EndsDigits`), and the blanks that may precede it are not there.
-/
namespace HealControl.Time

open HealControl.Decimal
open HealControl.Text (isBlank)

def EndsDigits (rest : List Char) : Prop :=
  ∀ c, rest.head? = some c → isDigit c = false

theorem endsDigits_cons {c : Char} (h : isDigit c = false) (rest : List Char) :
    EndsDigits (c :: rest) := by
  intro d hd
  obtain rfl := Option.some.inj hd
  exact h

theorem not_isBlank_of_isDigit {c : Char} (h : isDigit c) : isBlank c = false := by
  simp only [isDigit, Bool.and_eq_true, decide_eq_true_eq] at h
  simp [isBlank]
  omega

theorem dropWhile_isBlank_padded (width n : Nat) (rest : List Char) :
    (padded width n ++ rest).dropWhile isBlank = padded width n ++ rest := by
  obtain ⟨c, cs, hcs⟩ := List.exists_cons_of_ne_nil (padded_ne_nil width n)
  have hc : isDigit c := isDigit_of_mem_padded (hcs ▸ List.mem_cons_self)
  rw [hcs, List.cons_append, List.dropWhile_cons, not_isBlank_of_isDigit hc, if_neg (by decide)]

theorem takeWhile_take_of_endsDigits {rest : List Char} (h : EndsDigits rest) (most : Nat) :
    (rest.take most).takeWhile isDigit = [] := by
  cases rest with
  | nil => rw [List.take_nil, List.takeWhile_nil]
  | cons c rest =>
    have hc : isDigit c = false := h c rfl
    cases most with
    | zero => rfl
    | succ most => simp [hc]

theorem readDigits_append {most : Nat} {run rest : List Char} (hrun : ∀ c ∈ run, isDigit c)
    (hne : run ≠ []) (hlength : run.length ≤ most) (hfits : ofDigits run < Nat.pow 2 63)
    (hrest : EndsDigits rest) : readDigits most (run ++ rest) = .ok (run, rest) := by
  have htake : ((run ++ rest).take most).takeWhile isDigit = run := by
    rw [List.take_append, List.take_of_length_le hlength, List.takeWhile_append_of_pos hrun,
      takeWhile_take_of_endsDigits hrest, List.append_nil]
  have hempty : run.isEmpty = false := by simpa using hne
  simp only [readDigits, htake, hempty, Bool.false_eq_true, if_false, if_neg (Nat.not_le.mpr hfits),
    List.drop_left]

/-- A number is read up to where its digits end. -/
theorem readDigits_padded {most width n : Nat} {rest : List Char}
    (hlength : (padded width n).length ≤ most) (hfits : n < Nat.pow 2 63)
    (hrest : EndsDigits rest) :
    readDigits most (padded width n ++ rest) = .ok (padded width n, rest) := by
  apply readDigits_append (fun c hc => isDigit_of_mem_padded hc) (padded_ne_nil width n) hlength
  · rwa [ofDigits_padded]
  · exact hrest

/-! ## Parts of a timestamp -/

theorem readPart_padded {low high n : Nat} {rest : List Char} (hlow : low ≤ n) (hhigh : n ≤ high)
    (hdigits : n < 100) (hrest : EndsDigits rest) :
    readPart low high (padded 2 n ++ rest) = .ok (n, rest) := by
  have hlength : (padded 2 n).length ≤ 2 := Nat.le_of_eq (length_padded (by decide) hdigits)
  have hfits : n < Nat.pow 2 63 := Nat.lt_trans hdigits (by decide)
  have hread := readDigits_padded hlength hfits hrest
  simp only [readPart, dropWhile_isBlank_padded, hread, bind, Except.bind, ofDigits_padded,
    if_pos (And.intro hlow hhigh)]

theorem readYear_yearText {year : Int} (hleast : -262143 ≤ year) (hmost : year ≤ 262142)
    {rest : List Char} (hrest : EndsDigits rest) :
    readYear (yearText year ++ rest) = .ok (year, rest) := by
  have hfits : year.natAbs < Nat.pow 2 63 := Nat.lt_trans (m := 262144) (by omega) (by decide)
  have hrange : Int32.minValue.toInt ≤ year ∧ year ≤ Int32.maxValue.toInt := by
    have hmin : Int32.minValue.toInt = -2147483648 := rfl
    have hmax : Int32.maxValue.toInt = 2147483647 := rfl
    omega
  -- behind a sign the number takes as many digits as it needs
  have hlong : (padded 4 year.natAbs).length ≤ (padded 4 year.natAbs ++ rest).length := by
    rw [List.length_append]
    omega
  unfold yearText
  split
  · have hyear : year.natAbs < 10000 := by omega
    have hlength : (padded 4 year.natAbs).length ≤ 4 :=
      Nat.le_of_eq (length_padded (by decide) hyear)
    have habs : ((year.natAbs : Nat) : Int) = year := by omega
    have hread := readDigits_padded hlength hfits hrest
    obtain ⟨c, cs, hcs⟩ := List.exists_cons_of_ne_nil (padded_ne_nil 4 year.natAbs)
    have hc : isDigit c := isDigit_of_mem_padded (hcs ▸ List.mem_cons_self)
    unfold readYear
    rw [dropWhile_isBlank_padded]
    rw [hcs, List.cons_append] at hread ⊢
    split
    · rename_i heq
      obtain ⟨rfl, -⟩ := List.cons.inj heq
      exact absurd hc (by decide)
    · rename_i heq
      obtain ⟨rfl, -⟩ := List.cons.inj heq
      exact absurd hc (by decide)
    · simp only [hread, bind, Except.bind, ← hcs, ofDigits_padded, habs, if_pos hrange]
  · split
    · have habs : -((year.natAbs : Nat) : Int) = year := by omega
      have hread := readDigits_padded hlong hfits hrest
      have hblank : isBlank '-' = false := rfl
      simp only [readYear, List.cons_append, List.dropWhile_cons, hblank, Bool.false_eq_true,
        if_false, hread, bind, Except.bind, ofDigits_padded, habs, if_pos hrange]
    · have habs : ((year.natAbs : Nat) : Int) = year := by omega
      have hread := readDigits_padded hlong hfits hrest
      have hblank : isBlank '+' = false := rfl
      simp only [readYear, List.cons_append, List.dropWhile_cons, hblank, Bool.false_eq_true,
        if_false, hread, bind, Except.bind, ofDigits_padded, habs, if_pos hrange]

theorem readFraction_padded {places n nanosecond : Nat} (hpositive : 0 < places)
    (hplaces : places ≤ 9) (hn : n < Nat.pow 10 places)
    (hvalue : n * Nat.pow 10 (9 - places) = nanosecond) {rest : List Char}
    (hrest : EndsDigits rest) :
    readFraction ('.' :: padded places n ++ rest) = .ok (nanosecond, rest) := by
  have hlength := length_padded hpositive hn
  have hfits : n < Nat.pow 2 63 := by
    have hnine : Nat.pow 10 places ≤ Nat.pow 10 9 := Nat.pow_le_pow_right (by decide) hplaces
    exact Nat.lt_trans (Nat.lt_of_lt_of_le hn hnine) (by decide)
  have hread := readDigits_padded (Nat.le_trans (Nat.le_of_eq hlength) hplaces) hfits hrest
  have hdrop : rest.dropWhile isDigit = rest := by
    cases rest with
    | nil => rfl
    | cons c rest => rw [List.dropWhile_cons, hrest c rfl, if_neg (by decide)]
  simp only [readFraction, List.cons_append, hread, bind, Except.bind, ofDigits_padded, hlength,
    hdrop, hvalue]

theorem readFraction_fractionText {nanosecond : Nat} (h : nanosecond < 1000000000)
    (rest : List Char) :
    readFraction (fractionText nanosecond ++ 'Z' :: rest) = .ok (nanosecond, 'Z' :: rest) := by
  have hrest : EndsDigits ('Z' :: rest) := endsDigits_cons rfl rest
  unfold fractionText
  split
  · subst nanosecond
    rfl
  split
  · rename_i hmilli
    have hlt : nanosecond / 1000000 < 1000 := by omega
    have hvalue := Nat.div_mul_cancel (Nat.dvd_of_mod_eq_zero hmilli)
    exact readFraction_padded (by decide) (by decide) hlt hvalue hrest
  split
  · rename_i hmicro
    have hlt : nanosecond / 1000 < 1000000 := by omega
    have hvalue := Nat.div_mul_cancel (Nat.dvd_of_mod_eq_zero hmicro)
    exact readFraction_padded (by decide) (by decide) hlt hvalue hrest
  · exact readFraction_padded (by decide) (by decide) h (Nat.mul_one nanosecond) hrest

theorem endsDigits_fractionText (nanosecond : Nat) (rest : List Char) :
    EndsDigits (fractionText nanosecond ++ 'Z' :: rest) := by
  unfold fractionText
  split
  · exact endsDigits_cons rfl rest
  split
  · exact endsDigits_cons rfl _
  split <;> exact endsDigits_cons rfl _

/-! ## The whole text -/

theorem daysInMonth_le (year : Int) (month : Nat) : daysInMonth year month ≤ 31 := by
  have hfebruary : (if isLeapYear year then 29 else 28) ≤ 31 := by
    split <;> decide
  unfold daysInMonth
  split <;> omega

/-- A month with days is one of the twelve. -/
theorem month_of_daysInMonth_pos {year : Int} {month : Nat} (h : 0 < daysInMonth year month) :
    1 ≤ month ∧ month ≤ 12 := by
  unfold daysInMonth at h
  split at h <;> omega

theorem readMark_cons {c : Char} (h : isBlank c = false) (rest : List Char) :
    readMark c (c :: rest) = .ok rest := by
  rw [readMark, List.dropWhile_cons, h, if_neg (by decide)]
  exact if_pos rfl

def Timestamp.universalParts (t : Timestamp) : LocalParts :=
  ⟨t.date.year, t.date.month, t.date.day, t.hour, t.minute, t.second, t.nanosecond, 0⟩

theorem parts_ofText_text (t : Timestamp) : LocalParts.ofText t.text = .ok t.universalParts := by
  obtain ⟨hleast, hmost, hfirst, hlast⟩ := t.date.inCalendar
  obtain ⟨hjanuary, hdecember⟩ := month_of_daysInMonth_pos (Nat.lt_of_lt_of_le hfirst hlast)
  have hdays := Nat.le_trans hlast (daysInMonth_le t.date.year t.date.month)
  have hhours := t.hour_lt
  have hminutes := t.minute_lt
  have hseconds := t.second_le
  have hdash (rest : List Char) : EndsDigits ('-' :: rest) := endsDigits_cons rfl rest
  have hdivider (rest : List Char) : EndsDigits ('T' :: rest) := endsDigits_cons rfl rest
  have hcolon (rest : List Char) : EndsDigits (':' :: rest) := endsDigits_cons rfl rest
  have hyear (rest : List Char) := readYear_yearText hleast hmost (hdash rest)
  have hmonth (rest : List Char) := readPart_padded hjanuary hdecember (by omega) (hdash rest)
  have hday (rest : List Char) := readPart_padded hfirst hdays (by omega) (hdivider rest)
  have hhour (rest : List Char) :=
    readPart_padded (Nat.zero_le t.hour) (Nat.le_of_lt_succ hhours) (by omega) (hcolon rest)
  have hminute (rest : List Char) :=
    readPart_padded (Nat.zero_le t.minute) (Nat.le_of_lt_succ hminutes) (by omega) (hcolon rest)
  have hsecond := readPart_padded (Nat.zero_le t.second) hseconds (by omega)
    (endsDigits_fractionText t.nanosecond [])
  have hfraction := readFraction_fractionText t.nanosecond_lt []
  have htext : t.text = yearText t.date.year ++ '-' :: (padded 2 t.date.month ++
      '-' :: (padded 2 t.date.day ++ 'T' :: (padded 2 t.hour ++ ':' :: (padded 2 t.minute ++
        ':' :: (padded 2 t.second ++ (fractionText t.nanosecond ++ ['Z'])))))) := by
    simp only [Timestamp.text, List.append_assoc, List.cons_append]
  have hmark : isBlank '-' = false ∧ isBlank ':' = false := ⟨rfl, rfl⟩
  simp only [LocalParts.ofText, htext, bind, Except.bind, hyear, readMark_cons hmark.1, hmonth,
    hday, readDivider, true_or, if_true, hhour, readMark_cons hmark.2, hminute, hsecond, hfraction]
  rfl

/-- A clock time that is not moved stays as it is. -/
theorem ofMinutes_minutes {hour minute : Nat} (hhour : hour < 24) (hminute : minute < 60) :
    ClockMinute.ofMinutes (60 * hour + minute) = ⟨hour, minute, hhour, hminute⟩ := by
  have hh : (60 * hour + minute) / 60 % 24 = hour := by omega
  have hm : (60 * hour + minute) % 60 = minute := by omega
  simp only [ClockMinute.ofMinutes, hh, hm]

theorem toUniversal?_zero (date : Date) {hour minute : Nat} (hhour : hour < 24)
    (hminute : minute < 60) :
    toUniversal? date hour minute 0 = some (date, ⟨hour, minute, hhour, hminute⟩) := by
  have hminutes : (60 * (hour : Int) + minute - 0).toNat = 60 * hour + minute := by omega
  have hfirst : ¬ 60 * (hour : Int) + minute - 0 < 0 := by omega
  have hlast : ¬ 1440 ≤ 60 * (hour : Int) + minute - 0 := by omega
  simp only [toUniversal?, if_neg hfirst, if_neg hlast, hminutes, ofMinutes_minutes hhour hminute]

theorem instant_universalParts (t : Timestamp) : t.universalParts.instant = .ok t := by
  have hdate : Date.of? t.date.year t.date.month t.date.day = some t.date :=
    dif_pos t.date.inCalendar
  have huniversal := toUniversal?_zero t.date t.hour_lt t.minute_lt
  have hclock : t.second ≤ 60 ∧ t.nanosecond < 1000000000 := ⟨t.second_le, t.nanosecond_lt⟩
  have hoffset : Int.natAbs 0 < 1440 := by decide
  simp only [LocalParts.instant, Timestamp.universalParts, hdate, huniversal, if_pos hoffset]
  exact dif_pos hclock

/-- Every timestamp is found again in its text. -/
theorem Timestamp.ofText_text (t : Timestamp) : Timestamp.ofText t.text = .ok t := by
  rw [Timestamp.ofText, parts_ofText_text]
  exact instant_universalParts t

end HealControl.Time
