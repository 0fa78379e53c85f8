import Muster.Proofs.CodecReading
import Muster.Time.Stamp.Reader
import Muster.Time.Stamp.Writer
/-!
Reading undoes writing for points of time. The calendar leads from a day to its date and back, and
each part of a written point is read off its head, whatever follows it.
-/
namespace Muster.Time

open Muster.Text

/-- A day of the year that begins in March: its month, and the day of that month. -/
theorem ofDayNumber_parts (number : Int) :
    ∃ (year : Int) (inYear month : Nat), yearStart year + inYear = number + epochDay ∧
      number + epochDay < yearStart (year + 1) ∧ month = (5 * inYear + 2) / 153 ∧
      Date.ofDayNumber number =
        if month < 10 then ⟨year, month + 3, inYear - monthStart month + 1⟩
        else ⟨year + 1, month - 9, inYear - monthStart month + 1⟩ := by
  obtain ⟨hlow, hhigh⟩ := yearStart_yearOf_le (number + epochDay)
  refine ⟨yearOf (number + epochDay), (number + epochDay - yearStart (yearOf (number + epochDay))).toNat,
    _, ?_, hhigh, rfl, rfl⟩
  omega

/-- The length of a year that begins in March, by the February at its end. -/
theorem yearStart_succ (year : Int) :
    yearStart (year + 1) = yearStart year + (if isLeapYear (year + 1) then 366 else 365) := by
  simp only [yearStart, isLeapYear, Bool.and_eq_true, Bool.or_eq_true, decide_eq_true_eq, ne_eq,
    decide_not, Bool.not_eq_true', decide_eq_false_iff_not]
  split <;> omega

/-- The calendar leads from a day to its date and back. -/
theorem dayNumber_ofDayNumber (number : Int) : (Date.ofDayNumber number).dayNumber = number := by
  obtain ⟨year, inYear, month, hday, hnext, hmonth, hdate⟩ := ofDayNumber_parts number
  have hlength := yearStart_succ year
  have hinYear : inYear ≤ 365 := by
    split at hlength <;> omega
  rw [hdate]
  split
  · next hearly =>
      have hnumber : (month + 3 + 9) % 12 = month := by omega
      simp only [Date.dayNumber, hnumber, monthStart]
      rw [if_neg (by omega)]
      omega
  · next hlate =>
      have hnumber : (month - 9 + 9) % 12 = month := by omega
      have hyear : year + 1 - 1 = year := by omega
      simp only [Date.dayNumber, hnumber, hyear, monthStart]
      rw [if_pos (by omega)]
      omega

/-- The days of a month, counted from March, which the day of the month does not exceed. -/
theorem day_le_daysInMonth {year : Int} {inYear month : Nat}
    (hmonth : month = (5 * inYear + 2) / 153)
    (hinYear : inYear < if isLeapYear (year + 1) then 366 else 365) :
    inYear - monthStart month + 1 ≤
      if month < 10 then daysInMonth year (month + 3) else daysInMonth (year + 1) (month - 9) := by
  have hlast : inYear ≤ 365 := by
    split at hinYear <;> omega
  have hmonths : month = 0 ∨ month = 1 ∨ month = 2 ∨ month = 3 ∨ month = 4 ∨ month = 5 ∨
      month = 6 ∨ month = 7 ∨ month = 8 ∨ month = 9 ∨ month = 10 ∨ month = 11 := by omega
  rcases hmonths with h | h | h | h | h | h | h | h | h | h | h | h
  all_goals
    rw [h] at hmonth ⊢
    simp only [daysInMonth, monthStart, Nat.reduceLT, Nat.reduceMul, Nat.reduceAdd, Nat.reduceDiv,
      Nat.reduceSub, Nat.reduceEqDiff, ↓reduceIte, or_self, or_true, or_false, and_self,
      Nat.reduceLeDiff]
  all_goals first | omega | (split_ifs at hinYear ⊢ <;> omega)

theorem isValid_ofDayNumber (number : Int) : (Date.ofDayNumber number).isValid = true := by
  obtain ⟨year, inYear, month, hday, hnext, hmonth, hdate⟩ := ofDayNumber_parts number
  have hlength := yearStart_succ year
  have hinYear : inYear < if isLeapYear (year + 1) then 366 else 365 := by
    split at hlength
    · next hleap =>
        rw [if_pos hleap]
        omega
    · next hcommon =>
        rw [if_neg hcommon]
        omega
  have hle := day_le_daysInMonth hmonth hinYear
  rw [hdate]
  by_cases hearly : month < 10
  · rw [if_pos hearly] at hle ⊢
    simp only [Date.isValid, Bool.and_eq_true, decide_eq_true_eq]
    exact ⟨Nat.le_add_left _ _, hle⟩
  · rw [if_neg hearly] at hle ⊢
    simp only [Date.isValid, Bool.and_eq_true, decide_eq_true_eq]
    exact ⟨Nat.le_add_left _ _, hle⟩

theorem daysInMonth_le (year : Int) (month : Nat) : daysInMonth year month ≤ 31 := by
  simp only [daysInMonth]
  repeat' split
  all_goals omega

theorem daysInMonth_eq_zero (year : Int) {month : Nat} (hmonth : 12 < month) :
    daysInMonth year month = 0 := by
  simp only [daysInMonth]
  repeat' split
  all_goals omega

/-- The parts of a date that exists have two digits. -/
theorem lt_hundred_of_isValid {date : Date} (hdate : date.isValid = true) :
    date.month < 100 ∧ date.day < 100 := by
  simp only [Date.isValid, Bool.and_eq_true, decide_eq_true_eq] at hdate
  have hdays := daysInMonth_le date.year date.month
  rcases Nat.lt_or_ge 12 date.month with hmonth | hmonth
  · have hnone := daysInMonth_eq_zero date.year hmonth
    omega
  · omega

theorem yearStart_mono {early late : Int} (hle : early ≤ late) : yearStart early ≤ yearStart late := by
  rcases Int.lt_or_eq_of_le hle with hlt | rfl
  · simp only [yearStart]
    omega
  · exact Int.le_refl _

/-- The days that can be named lie in years that can be named. -/
theorem year_ofDayNumber {seconds : Int} (hlow : firstSecond ≤ seconds)
    (hhigh : seconds ≤ lastSecond) :
    -262143 ≤ (Date.ofDayNumber (seconds / 86400)).year ∧
      (Date.ofDayNumber (seconds / 86400)).year ≤ 262142 := by
  obtain ⟨year, inYear, month, hday, hnext, hmonth, hdate⟩ := ofDayNumber_parts (seconds / 86400)
  simp only [firstSecond] at hlow
  simp only [lastSecond] at hhigh
  simp only [epochDay] at hday hnext
  have hfirst : yearStart (-262144) = -95746130 := by decide
  have hlast : yearStart 262142 = 95745399 := by decide
  have hafter : yearStart 262143 = 95745764 := by decide
  have hyear : -262144 ≤ year ∧ year ≤ 262142 := by
    constructor
    · rcases Int.lt_or_le year (-262144) with hearly | hearly
      · have := yearStart_mono (by omega : year + 1 ≤ -262144)
        omega
      · exact hearly
    · rcases Int.lt_or_le 262142 year with hlate | hlate
      · have := yearStart_mono (by omega : 262143 ≤ year)
        omega
      · exact hlate
  -- the first and the last of these years, which begin in March, hold such days only in part
  rw [hdate]
  split
  · refine ⟨?_, hyear.2⟩
    change -262143 ≤ year
    rcases Int.lt_or_eq_of_le hyear.1 with hlater | rfl
    · omega
    · omega
  · refine ⟨?_, ?_⟩
    · change -262143 ≤ year + 1
      omega
    · change year + 1 ≤ 262142
      rcases Int.lt_or_eq_of_le hyear.2 with hearlier | rfl
      · omega
      · omega

/-- No digit stands at the head of the text. -/
def NoDigit (rest : List Char) : Prop :=
  ∀ c tail, rest = c :: tail → isDigit c = false

theorem noDigit_nil : NoDigit [] := by
  intro c tail hsame
  cases hsame

theorem noDigit_cons {c : Char} (hc : isDigit c = false) (rest : List Char) : NoDigit (c :: rest) := by
  intro first tail hsame
  cases hsame
  exact hc

theorem takeWhile_isDigit {digits : List Char} (hdigits : ∀ c ∈ digits, isDigit c = true)
    {rest : List Char} (hrest : NoDigit rest) :
    (digits ++ rest).takeWhile isDigit = digits := by
  rw [List.takeWhile_append_of_pos hdigits]
  cases rest with
  | nil => simp
  | cons c tail => simp [hrest c tail rfl]

/-- Digits are read to their end, if that many may be, or as many as may be. -/
theorem takeDigits_digits {digits : List Char} (hne : digits ≠ [])
    (hdigits : ∀ c ∈ digits, isDigit c = true) {most : Nat} {rest : List Char}
    (hend : digits.length = most ∨ (digits.length ≤ most ∧ NoDigit rest)) :
    takeDigits most (digits ++ rest) = some (digitsValue digits, rest) := by
  have htake : ((digits ++ rest).take most).takeWhile isDigit = digits := by
    rcases hend with rfl | ⟨hle, hrest⟩
    · have hself := takeWhile_isDigit hdigits noDigit_nil
      rw [List.append_nil] at hself
      rw [List.take_left, hself]
    · rw [List.take_append, List.take_of_length_le hle]
      apply takeWhile_isDigit hdigits
      intro c tail hsame
      cases rest with
      | nil => simp at hsame
      | cons first others =>
          cases hmost : most - digits.length with
          | zero =>
              rw [hmost] at hsame
              cases hsame
          | succ more =>
              rw [hmost] at hsame
              cases hsame
              exact hrest _ _ rfl
  have hempty : digits.isEmpty = false := by
    cases digits with
    | nil => exact absurd rfl hne
    | cons c tail => rfl
  simp [takeDigits, htake, hempty]

theorem isBlank_digit {c : Char} (hc : isDigit c = true) : isBlank c = false := by
  simp only [isDigit, Bool.and_eq_true, decide_eq_true_eq, Char.le_def, UInt32.le_iff_toNat_le] at hc
  have hlow : 48 ≤ c.toNat := hc.1
  have hhigh : c.toNat ≤ 57 := hc.2
  exact isBlank_of_visible (by omega) (by omega)

theorem dropBlank_digits {digits : List Char} (hne : digits ≠ [])
    (hdigits : ∀ c ∈ digits, isDigit c = true) (rest : List Char) :
    dropBlank (digits ++ rest) = digits ++ rest := by
  cases digits with
  | nil => exact absurd rfl hne
  | cons c tail => exact dropBlank_cons (isBlank_digit (hdigits c List.mem_cons_self)) _

theorem takeShort_paddedDigits {n : Nat} (hn : n < 100) (rest : List Char) :
    takeShort (paddedDigits 2 n ++ rest) = some (n, rest) := by
  have hdigits := isDigit_of_mem_paddedDigits 2 n
  have hlength : (paddedDigits 2 n).length = 2 := length_paddedDigits (by decide) hn
  rw [takeShort, dropBlank_digits (paddedDigits_ne_nil 2 n) hdigits,
    takeDigits_digits (paddedDigits_ne_nil 2 n) hdigits (Or.inl hlength),
    digitsValue_paddedDigits]

theorem takeMark_cons {mark : Char} (hmark : isBlank mark = false) (rest : List Char) :
    takeMark mark (mark :: rest) = some rest := by
  rw [takeMark, dropBlank_cons hmark]
  exact if_pos rfl

/-- A year is read as it was written, with a sign or with four digits. -/
theorem takeYear_yearText (year : Int) {rest : List Char} (hrest : NoDigit rest) :
    takeYear (yearText year ++ rest) = some (year, rest) := by
  have hdigits := isDigit_of_mem_paddedDigits 4 year.natAbs
  have hne := paddedDigits_ne_nil 4 year.natAbs
  have hsigned : takeDigits (paddedDigits 4 year.natAbs ++ rest).length
      (paddedDigits 4 year.natAbs ++ rest) = some (year.natAbs, rest) := by
    have hle : (paddedDigits 4 year.natAbs).length ≤
        (paddedDigits 4 year.natAbs ++ rest).length := by
      rw [List.length_append]
      exact Nat.le_add_right _ _
    rw [takeDigits_digits hne hdigits (Or.inr ⟨hle, hrest⟩), digitsValue_paddedDigits]
  simp only [yearText]
  by_cases hplain : 0 ≤ year ∧ year ≤ 9999
  · have hyear : year.toNat = year.natAbs := by omega
    rw [if_pos hplain, hyear]
    have hlength : (paddedDigits 4 year.natAbs).length = 4 :=
      length_paddedDigits (by decide) (by change year.natAbs < 10000; omega)
    have hread : takeDigits 4 (paddedDigits 4 year.natAbs ++ rest) =
        some (digitsValue (paddedDigits 4 year.natAbs), rest) :=
      takeDigits_digits hne hdigits (Or.inl hlength)
    rw [digitsValue_paddedDigits] at hread
    rw [takeYear, dropBlank_digits hne hdigits]
    cases hchars : paddedDigits 4 year.natAbs with
    | nil => exact absurd hchars hne
    | cons c tail =>
        have hc := hdigits c (by rw [hchars]; exact List.mem_cons_self)
        have hminus : c ≠ '-' := by
          rintro rfl
          exact absurd hc (by decide)
        have hplus : c ≠ '+' := by
          rintro rfl
          exact absurd hc (by decide)
        have hyear : (year.natAbs : Int) = year := by omega
        rw [hchars] at hread
        split
        · next heq => exact absurd (List.cons.inj heq).1 hminus
        · next heq => exact absurd (List.cons.inj heq).1 hplus
        · rw [hread, Option.map_some]
          change some ((year.natAbs : Int), rest) = some (year, rest)
          rw [hyear]
  · rw [if_neg hplain]
    by_cases hnegative : year < 0
    · have hyear : -(year.natAbs : Int) = year := by omega
      rw [if_pos hnegative, List.cons_append, takeYear, dropBlank_cons (by decide)]
      simp only [hsigned, Option.map_some, hyear]
    · have hyear : (year.natAbs : Int) = year := by omega
      rw [if_neg hnegative, List.cons_append, takeYear, dropBlank_cons (by decide)]
      simp only [hsigned, Option.map_some, hyear]

theorem takeDate_chars {date : Date} (hvalid : date.isValid = true)
    (hyear : -262143 ≤ date.year ∧ date.year ≤ 262142) (rest : List Char) :
    takeDate (date.chars ++ rest) = some (date, rest) := by
  obtain ⟨hmonth, hday⟩ := lt_hundred_of_isValid hvalid
  have hdash : isBlank '-' = false := by decide
  simp only [Date.chars, List.append_assoc, List.cons_append]
  rw [takeDate, takeYear_yearText date.year (noDigit_cons (by decide) _)]
  simp only [Option.bind_eq_bind, Option.bind_some, takeMark_cons hdash,
    takeShort_paddedDigits hmonth, takeShort_paddedDigits hday]
  exact if_pos ⟨hyear.1, hyear.2, hvalid⟩

/-- A fraction of some digits is read as the nanoseconds that it stands for. -/
theorem takeFraction_point {size n : Nat} (hsize : 0 < size) (hnine : size ≤ 9)
    (hn : n < Nat.pow 10 size) {rest : List Char} (hrest : NoDigit rest) :
    takeFraction ('.' :: paddedDigits size n ++ rest) = some (n * Nat.pow 10 (9 - size), rest) := by
  have hdigits := isDigit_of_mem_paddedDigits size n
  have hlength := length_paddedDigits hsize hn
  have hread := takeDigits_digits (paddedDigits_ne_nil size n) hdigits
    (Or.inr ⟨le_of_eq_of_le hlength hnine, hrest⟩)
  rw [digitsValue_paddedDigits] at hread
  rw [List.cons_append, takeFraction, hread]
  simp only [Option.bind_eq_bind, Option.bind_some, takeWhile_isDigit hdigits hrest, hlength,
    Nat.min_eq_right hnine, List.drop_left' hlength]

theorem takeFraction_fractionText {nanos : Nat} (hnanos : nanos < 1000000000) (rest : List Char)
    (hrest : NoDigit ('Z' :: rest)) :
    takeFraction (fractionText nanos ++ 'Z' :: rest) = some (nanos, 'Z' :: rest) := by
  simp only [fractionText]
  split
  · next hzero =>
      rw [hzero]
      rfl
  split
  · next hmillis =>
      have hfits : nanos / 1000000 < Nat.pow 10 3 := by
        change nanos / 1000000 < 1000
        omega
      have hvalue : nanos / 1000000 * Nat.pow 10 (9 - 3) = nanos := by
        change nanos / 1000000 * 1000000 = nanos
        omega
      rw [takeFraction_point (by decide) (by decide) hfits hrest, hvalue]
  split
  · next hmicros =>
      have hfits : nanos / 1000 < Nat.pow 10 6 := by
        change nanos / 1000 < 1000000
        omega
      have hvalue : nanos / 1000 * Nat.pow 10 (9 - 6) = nanos := by
        change nanos / 1000 * 1000 = nanos
        omega
      rw [takeFraction_point (by decide) (by decide) hfits hrest, hvalue]
  · have hvalue : nanos * Nat.pow 10 (9 - 9) = nanos := Nat.mul_one nanos
    rw [takeFraction_point (by decide) (by decide) hnanos hrest, hvalue]

/-- The parts of a time of day, read one after the other. -/
theorem takeClock_of_parts {text first second third fourth rest : List Char}
    {hour minute size nanos leap : Nat} (hhour : takeShort text = some (hour, first))
    (hcolon : takeMark ':' first = some second) (hminute : takeShort second = some (minute, third))
    (hnext : takeMark ':' third = some fourth) (hsize : ∃ fifth,
      takeShort fourth = some (size, fifth) ∧ takeFraction fifth = some (nanos, rest))
    (hvalid : hour ≤ 23 ∧ minute ≤ 59 ∧ size ≤ 60)
    (hleap : (if size = 60 then 1 else 0) = leap) :
    takeClock text =
      some ((hour * 3600 + minute * 60 + size - leap, nanos + leap * 1000000000), rest) := by
  obtain ⟨fifth, hsize, hfraction⟩ := hsize
  subst hleap
  simp only [takeClock, hhour, hcolon, hminute, hnext, hsize, hfraction, Option.bind_eq_bind,
    Option.bind_some]
  exact if_pos hvalid

/-- A time of day is read as it was written, be it in a leap second. -/
theorem takeClock_clockChars {second nanos : Nat} (hsecond : second < 86400)
    (hnanos : nanos < 1000000000 ∨ (nanos < 2000000000 ∧ second % 60 = 59)) (rest : List Char) :
    takeClock (clockChars second nanos ++ 'Z' :: rest) = some ((second, nanos), 'Z' :: rest) := by
  have hcolon : isBlank ':' = false := by decide
  have hrest : NoDigit ('Z' :: rest) := noDigit_cons (by decide) rest
  have hhour : second / 3600 < 100 := by omega
  have hminute : second / 60 % 60 < 100 := by omega
  -- the leap second is the sixtieth of its minute, which only the 59th can have behind it
  obtain ⟨leap, hleap, hleaps, hsize, hplain, hwhole⟩ : ∃ leap : Nat,
      (if nanos < 1000000000 then 0 else 1) = leap ∧
        (if second % 60 + leap = 60 then 1 else 0) = leap ∧ second % 60 + leap ≤ 60 ∧
          nanos - leap * 1000000000 < 1000000000 ∧
            nanos - leap * 1000000000 + leap * 1000000000 = nanos := by
    by_cases hless : nanos < 1000000000
    · have hearly : second % 60 + 0 ≠ 60 := by omega
      exact ⟨0, if_pos hless, if_neg hearly, by omega, by omega, by omega⟩
    · have hlate : second % 60 + 1 = 60 := by omega
      exact ⟨1, if_neg hless, if_pos hlate, by omega, by omega, by omega⟩
  have hvalid : second / 3600 ≤ 23 ∧ second / 60 % 60 ≤ 59 ∧ second % 60 + leap ≤ 60 := by
    omega
  have hshort : second % 60 + leap < 100 := by omega
  have hvalue : second / 3600 * 3600 + second / 60 % 60 * 60 + (second % 60 + leap) - leap =
      second := by omega
  have hchars : clockChars second nanos = paddedDigits 2 (second / 3600) ++
      ':' :: paddedDigits 2 (second / 60 % 60) ++ ':' :: paddedDigits 2 (second % 60 + leap) ++
        fractionText (nanos - leap * 1000000000) := by
    rw [← hleap]
    rfl
  have hread := takeClock_of_parts (takeShort_paddedDigits hhour _) (takeMark_cons hcolon _)
    (takeShort_paddedDigits hminute _) (takeMark_cons hcolon _)
    ⟨_, takeShort_paddedDigits hshort _, takeFraction_fractionText hplain rest hrest⟩ hvalid hleaps
  rw [hvalue, hwhole] at hread
  rw [hchars, List.append_assoc, List.append_assoc, List.append_assoc]
  exact hread

/-- The text of a point of time that a clock shows is read as that point. -/
theorem ofText?_text_of_isRegular {i : Instant} (hregular : i.IsRegular) :
    Instant.ofText? i.text = some i := by
  obtain ⟨hlow, hhigh, hnanos⟩ := i.representable
  have hdate := takeDate_chars (isValid_ofDayNumber (i.seconds / 86400))
    (year_ofDayNumber hlow hhigh)
  have hclock : takeClock (clockChars (i.seconds % 86400).toNat i.nanos ++ ['Z']) =
      some (((i.seconds % 86400).toNat, i.nanos), ['Z']) := by
    apply takeClock_clockChars
    · omega
    · rcases hregular with hless | hlast
      · exact Or.inl hless
      · exact Or.inr ⟨hnanos, by omega⟩
  have hoffset : takeOffset (dropBlank ['Z']) = some (0, []) := by decide
  have hend : (dropBlank []).isEmpty = true := by decide
  have hvalue : (Date.ofDayNumber (i.seconds / 86400)).dayNumber * 86400 +
      ((i.seconds % 86400).toNat : Int) - 0 = i.seconds := by
    rw [dayNumber_ofDayNumber]
    omega
  simp only [Instant.ofText?, Instant.text, String.toList_ofList, Instant.ofChars?, Instant.chars,
    List.append_assoc, List.cons_append, hdate, Option.bind_eq_bind, Option.bind_some, hclock,
    hoffset, hend, hvalue, ↓reduceIte]
  exact Instant.ofParts?_eq_some i.representable

/-- What lies beyond a second has the text of the next one, unless the text is that of a leap
second. -/
theorem clockChars_succ {second nanos : Nat} (hbeyond : 1000000000 ≤ nanos)
    (hnanos : nanos < 2000000000) (hsecond : second % 60 ≠ 59) :
    clockChars (second + 1) (nanos - 1000000000) = clockChars second nanos := by
  have hhour : (second + 1) / 3600 = second / 3600 := by omega
  have hminute : (second + 1) / 60 = second / 60 := by omega
  have hplace : (second + 1) % 60 = second % 60 + 1 := by omega
  simp only [clockChars, if_pos (by omega : nanos - 1000000000 < 1000000000),
    if_neg (by omega : ¬ nanos < 1000000000), hhour, hminute, hplace, Nat.add_zero, Nat.zero_mul,
    Nat.one_mul, Nat.sub_zero]

/-- A point of time and the one that a clock shows in its place have one text. -/
theorem text_settled (i : Instant) : i.settled.text = i.text := by
  by_cases hregular : i.IsRegular
  · rw [i.settled_eq_self_iff.2 hregular]
  · obtain ⟨hlow, hhigh, hnanos⟩ := i.representable
    simp only [Instant.IsRegular, not_or] at hregular
    have hday : (i.seconds + 1) / 86400 = i.seconds / 86400 := by omega
    have hsecond : ((i.seconds + 1) % 86400).toNat = (i.seconds % 86400).toNat + 1 := by omega
    have hchars : i.settled.chars = i.chars := by
      rw [Instant.settled, dif_neg (by simpa [Instant.IsRegular] using hregular)]
      simp only [Instant.chars, hday, hsecond]
      rw [clockChars_succ (by omega) hnanos (by omega)]
    rw [Instant.text, Instant.text, hchars]

/-- The text of a point of time is read as the point that a clock shows in its place. -/
theorem ofText?_text (i : Instant) : Instant.ofText? i.text = some i.settled := by
  rw [← text_settled]
  exact ofText?_text_of_isRegular i.settled_isRegular

end Muster.Time

namespace Muster.Json

open Muster.Time

theorem Codec.restores_instant {i : Instant} (hregular : i.IsRegular) :
    Codec.instant.Restores i := by
  simp only [Codec.Restores, Codec.instant, Value.toDoc, ofText?_text_of_isRegular hregular]

/-- The others are written as those that a clock shows in their place. -/
theorem Codec.write_settled (i : Instant) : Codec.instant.write i.settled = Codec.instant.write i := by
  simp only [Codec.instant, text_settled]

end Muster.Json
