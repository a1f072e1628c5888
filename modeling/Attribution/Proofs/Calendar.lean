import Attribution.Calendar
import Mathlib

/-!
# Counting days

Dates and counts of days come to the same: each day of the calendar has one date.

- `Calendar.daysBeforeYear_succ`: a year has 365 days, or 366 if it is a leap year.
- `Calendar.yearOfDay_eq_iff`: the year in which a day lies.
- `Calendar.locate_sum_take_add`, `Calendar.locate_spec`: the period in which a day lies, and its
  place there.
- `Calendar.Date.ofDayNumber_dayNumber`, `Calendar.Date.dayNumber_ofDayNumber`: a date as a count
  of days, and back.
- `Calendar.Date.isValid_ofDayNumber`, `Calendar.Date.dayNumber_lt`: the days of the calendar.
-/

namespace Attribution.Calendar

/-! ## Years -/

/-- The number of days of a year. -/
def yearLength (year : Nat) : Nat := if isLeapYear year then 366 else 365

theorem isLeapYear_iff {year : Nat} :
    isLeapYear year = true ↔ year % 4 = 0 ∧ (year % 100 ≠ 0 ∨ year % 400 = 0) := by
  simp [isLeapYear]

theorem sum_monthLengths (year : Nat) : (monthLengths year).sum = yearLength year := by
  unfold monthLengths yearLength
  split <;> rfl

/-- The length of a year, by which of four, a hundred and four hundred divide its number. -/
theorem yearLength_add (year : Nat) :
    yearLength year + (if year % 100 = 0 then 1 else 0) =
      365 + (if year % 4 = 0 then 1 else 0) + (if year % 400 = 0 then 1 else 0) := by
  have h4 : year % 100 = 0 → year % 4 = 0 := by omega
  have h100 : year % 400 = 0 → year % 100 = 0 := by omega
  simp only [yearLength, isLeapYear_iff]
  split_ifs <;> simp_all

/-- **The days before a year** are those before the last one and its own. -/
theorem daysBeforeYear_succ {year : Nat} (h : 1 ≤ year) :
    daysBeforeYear (year + 1) = daysBeforeYear year + yearLength year := by
  obtain ⟨y, rfl⟩ : ∃ y, year = y + 1 := ⟨year - 1, by omega⟩
  have h4 : (y + 1) / 4 = y / 4 + if (y + 1) % 4 = 0 then 1 else 0 := by split_ifs <;> omega
  have h100 : (y + 1) / 100 = y / 100 + if (y + 1) % 100 = 0 then 1 else 0 := by
    split_ifs <;> omega
  have h400 : (y + 1) / 400 = y / 400 + if (y + 1) % 400 = 0 then 1 else 0 := by
    split_ifs <;> omega
  have hle : y / 100 ≤ y := Nat.div_le_self y 100
  have hlength := yearLength_add (y + 1)
  simp only [daysBeforeYear, Nat.add_sub_cancel, h4, h100, h400]
  generalize y / 4 = a, y / 100 = b, y / 400 = c at hle ⊢
  split_ifs at hlength ⊢ <;> omega

theorem daysBeforeYear_mono {y z : Nat} (h : y ≤ z) : daysBeforeYear y ≤ daysBeforeYear z := by
  refine monotone_nat_of_le_succ (fun year => ?_) h
  rcases Nat.eq_zero_or_pos year with rfl | hpos
  · decide
  · simp [daysBeforeYear_succ hpos]

/-- The days before the year that comes after whole cycles, centuries, groups of four and years. -/
theorem daysBeforeYear_of_parts {q c f y : Nat} (hc : c ≤ 3) (hf : f ≤ 24) (hy : y ≤ 3) :
    daysBeforeYear (400 * q + 100 * c + 4 * f + y + 1) =
      146097 * q + 36524 * c + 1461 * f + 365 * y := by
  have h4 : (400 * q + 100 * c + 4 * f + y) / 4 = 100 * q + 25 * c + f := by omega
  have h100 : (400 * q + 100 * c + 4 * f + y) / 100 = 4 * q + c := by omega
  have h400 : (400 * q + 100 * c + 4 * f + y) / 400 = q := by omega
  simp only [daysBeforeYear, Nat.add_sub_cancel, h4, h100, h400]
  omega

/-- A day lies between the start of its year and that of the next. -/
theorem yearOfDay_spec (n : Nat) :
    1 ≤ yearOfDay n ∧ daysBeforeYear (yearOfDay n) ≤ n ∧ n < daysBeforeYear (yearOfDay n + 1) := by
  -- the whole cycles, centuries, groups of four and years before the day, and what each leaves
  obtain ⟨q, r, hn, hr, hq⟩ : ∃ q r, n = 146097 * q + r ∧ r < 146097 ∧
      n / 146097 = q ∧ n % 146097 = r := ⟨_, _, by omega, by omega, rfl, rfl⟩
  obtain ⟨c, hc⟩ : ∃ c, min 3 (r / 36524) = c := ⟨_, rfl⟩
  obtain ⟨s, hs⟩ : ∃ s, r - 36524 * c = s := ⟨_, rfl⟩
  obtain ⟨f, t, hf, ht⟩ : ∃ f t, s / 1461 = f ∧ s % 1461 = t := ⟨_, _, rfl, rfl⟩
  obtain ⟨y, hy⟩ : ∃ y, min 3 (t / 365) = y := ⟨_, rfl⟩
  have hyear : yearOfDay n = 400 * q + 100 * c + 4 * f + y + 1 := by
    simp only [yearOfDay, hq, hc, hs, hf, ht, hy]
  have hs' : r = 36524 * c + s ∧ c ≤ 3 ∧ s < 36525 ∧ (c < 3 → s < 36524) := by omega
  have ht' : s = 1461 * f + t ∧ t < 1461 ∧ f ≤ 24 := by omega
  have hy' : 365 * y ≤ t ∧ y ≤ 3 ∧ (y < 3 → t < 365 * y + 365) := by omega
  obtain ⟨hrs, hc3, hs, hsc⟩ := hs'
  obtain ⟨hst, ht, hf24⟩ := ht'
  obtain ⟨hyt, hy3, hty⟩ := hy'
  rw [hyear]
  refine ⟨by omega, ?_, ?_⟩
  · rw [daysBeforeYear_of_parts hc3 hf24 hy3]
    omega
  · -- the next year is the first of what the last year of a group, a century or a cycle ends
    rcases Nat.lt_or_eq_of_le hy3 with hlt | rfl
    · rw [show 400 * q + 100 * c + 4 * f + y + 1 + 1 = 400 * q + 100 * c + 4 * f + (y + 1) + 1 by
        omega, daysBeforeYear_of_parts hc3 hf24 hlt]
      have := hty hlt
      omega
    rcases Nat.lt_or_eq_of_le hf24 with hlt | rfl
    · rw [show 400 * q + 100 * c + 4 * f + 3 + 1 + 1 = 400 * q + 100 * c + 4 * (f + 1) + 0 + 1 by
        omega, daysBeforeYear_of_parts hc3 hlt (Nat.zero_le 3)]
      omega
    rcases Nat.lt_or_eq_of_le hc3 with hlt | rfl
    · rw [show 400 * q + 100 * c + 4 * 24 + 3 + 1 + 1 = 400 * q + 100 * (c + 1) + 4 * 0 + 0 + 1 by
        omega, daysBeforeYear_of_parts hlt (Nat.zero_le 24) (Nat.zero_le 3)]
      have := hsc hlt
      omega
    · rw [show 400 * q + 100 * 3 + 4 * 24 + 3 + 1 + 1 = 400 * (q + 1) + 100 * 0 + 4 * 0 + 0 + 1 by
        omega, daysBeforeYear_of_parts (Nat.zero_le 3) (Nat.zero_le 24) (Nat.zero_le 3)]
      omega

/-- **The year of a day** is the one that starts no later and after which the next starts later. -/
theorem yearOfDay_eq_iff {n year : Nat} :
    yearOfDay n = year ↔ daysBeforeYear year ≤ n ∧ n < daysBeforeYear (year + 1) := by
  obtain ⟨-, hstart, hend⟩ := yearOfDay_spec n
  refine ⟨fun hyear => hyear ▸ ⟨hstart, hend⟩, fun ⟨hle, hlt⟩ => ?_⟩
  rcases Nat.lt_trichotomy (yearOfDay n) year with hbefore | heq | hafter
  · have hnext : daysBeforeYear (yearOfDay n + 1) ≤ daysBeforeYear year :=
      daysBeforeYear_mono hbefore
    omega
  · exact heq
  · have hnext : daysBeforeYear (year + 1) ≤ daysBeforeYear (yearOfDay n) :=
      daysBeforeYear_mono hafter
    omega

/-- The days before a year of the calendar, and its own, are days of the calendar. -/
theorem yearOfDay_le_maxYear_iff {n : Nat} : yearOfDay n ≤ maxYear ↔ n < totalDays := by
  obtain ⟨-, hstart, hend⟩ := yearOfDay_spec n
  refine ⟨fun h => ?_, fun h => ?_⟩
  · exact hend.trans_le (daysBeforeYear_mono (Nat.succ_le_succ h))
  · by_contra hlt
    have := daysBeforeYear_mono (Nat.lt_of_not_le hlt)
    exact absurd (this.trans hstart) (Nat.not_le_of_lt h)

/-! ## Months -/

/-- A period and those before it are not longer than all of them. -/
theorem sum_take_add_le {lengths : List Nat} {k length : Nat} (h : lengths[k]? = some length) :
    (lengths.take k).sum + length ≤ lengths.sum := by
  obtain ⟨hk, rfl⟩ := List.getElem?_eq_some_iff.mp h
  rw [← List.sum_take_add_sum_drop lengths k, List.drop_eq_getElem_cons hk, List.sum_cons]
  omega

theorem locate_sum_take_add {lengths : List Nat} {k length place : Nat}
    (h : lengths[k]? = some length) (hplace : place < length) :
    locate lengths ((lengths.take k).sum + place) = (k, place) := by
  induction k generalizing lengths with
  | zero =>
    cases lengths with
    | nil => simp at h
    | cons first rest =>
      obtain rfl : first = length := by simpa using h
      simp [locate, hplace]
  | succ k ih =>
    cases lengths with
    | nil => simp at h
    | cons first rest =>
      have hperiod : rest[k]? = some length := by simpa using h
      rw [List.take_succ_cons, List.sum_cons, Nat.add_assoc, locate,
        if_neg (Nat.not_lt.mpr (Nat.le_add_right _ _)), Nat.add_sub_cancel_left, ih hperiod]

/-- A day within the periods is found at a place in one of them. -/
theorem locate_spec {lengths : List Nat} {n : Nat} (h : n < lengths.sum) :
    ∃ length, lengths[(locate lengths n).1]? = some length ∧ (locate lengths n).2 < length ∧
      (lengths.take (locate lengths n).1).sum + (locate lengths n).2 = n := by
  induction lengths generalizing n with
  | nil => simp at h
  | cons first rest ih =>
    rw [List.sum_cons] at h
    rcases Nat.lt_or_ge n first with hlt | hge
    · rw [locate, if_pos hlt]
      exact ⟨first, rfl, hlt, by simp⟩
    · obtain ⟨length, hperiod, hplace, hsum⟩ := ih (n := n - first) (by omega)
      rw [locate, if_neg (Nat.not_lt.mpr hge)]
      refine ⟨length, by simpa using hperiod, hplace, ?_⟩
      rw [List.take_succ_cons, List.sum_cons, Nat.add_assoc, hsum]
      omega

/-! ## Dates -/

namespace Date

/-- The days before a date are those before its year, those before its month and those before it. -/
theorem dayNumber_eq (d : Date) :
    d.dayNumber =
      daysBeforeYear d.year + (((monthLengths d.year).take (d.month - 1)).sum + (d.day - 1)) := by
  rw [dayNumber, List.sum_eq_foldl, Nat.add_assoc]

variable {d : Date}

theorem yearOfDay_dayNumber (h : d.IsValid) : yearOfDay d.dayNumber = d.year := by
  obtain ⟨hyear, -, -, hday, length, hlength, hle⟩ := h
  have hmonth := sum_take_add_le hlength
  rw [sum_monthLengths] at hmonth
  rw [yearOfDay_eq_iff, daysBeforeYear_succ hyear, dayNumber_eq]
  omega

/-- **A date is the one that its count of days says.** -/
theorem ofDayNumber_dayNumber (h : d.IsValid) : ofDayNumber d.dayNumber = d := by
  have hyear := yearOfDay_dayNumber h
  obtain ⟨-, -, hmonth, hday, length, hlength, hle⟩ := h
  have hplace : locate (monthLengths d.year) (d.dayNumber - daysBeforeYear d.year) =
      (d.month - 1, d.day - 1) := by
    rw [dayNumber_eq, Nat.add_sub_cancel_left, locate_sum_take_add hlength (by omega)]
  rw [ofDayNumber, hyear]
  simp only [hplace, Nat.sub_add_cancel hmonth, Nat.sub_add_cancel hday]

theorem dayNumber_lt (h : d.IsValid) : d.dayNumber < totalDays := by
  rw [← yearOfDay_le_maxYear_iff, yearOfDay_dayNumber h]
  exact h.2.1

theorem sub_daysBeforeYear_lt (n : Nat) :
    n - daysBeforeYear (yearOfDay n) < (monthLengths (yearOfDay n)).sum := by
  obtain ⟨hpos, hstart, hend⟩ := yearOfDay_spec n
  rw [daysBeforeYear_succ hpos] at hend
  rw [sum_monthLengths]
  omega

/-- **A count of days is that of the date it says.** -/
theorem dayNumber_ofDayNumber (n : Nat) : (ofDayNumber n).dayNumber = n := by
  obtain ⟨-, -, -, hsum⟩ := locate_spec (sub_daysBeforeYear_lt n)
  have hstart := (yearOfDay_spec n).2.1
  rw [dayNumber_eq]
  simp only [ofDayNumber, Nat.add_sub_cancel]
  omega

theorem isValid_ofDayNumber {n : Nat} (h : n < totalDays) : (ofDayNumber n).IsValid := by
  obtain ⟨length, hlength, hplace, -⟩ := locate_spec (sub_daysBeforeYear_lt n)
  refine ⟨(yearOfDay_spec n).1, yearOfDay_le_maxYear_iff.mpr h, ?_, ?_, length, ?_, ?_⟩
  · exact Nat.le_add_left 1 _
  · exact Nat.le_add_left 1 _
  · simpa [ofDayNumber] using hlength
  · exact hplace

end Date

end Attribution.Calendar
