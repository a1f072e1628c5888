/-!
# The calendar

Dates of the proleptic Gregorian calendar, counted in days from the first day of year one.

- `Calendar.Date`: a year, a month and a day.
- `Calendar.Date.IsValid`: the dates there are.
- `Calendar.Date.dayNumber`, `Calendar.Date.ofDayNumber`: a date as a count of days and back.
-/

namespace Attribution.Calendar

/-! ## Years and months -/

/-- Every fourth year is a leap year, but of the centuries only every fourth. -/
def isLeapYear (year : Nat) : Bool := year % 4 == 0 && (year % 100 != 0 || year % 400 == 0)

/-- The number of days before the first of January of a year. -/
def daysBeforeYear (year : Nat) : Nat :=
  let y := year - 1
  365 * y + y / 4 - y / 100 + y / 400

/-- The year in which a day lies. A cycle of 400 years has 146097 days; within it the last century,
and within four years the last year, may be a day longer than the others. -/
def yearOfDay (n : Nat) : Nat :=
  let inCycle := n % 146097
  let centuries := min 3 (inCycle / 36524)
  let inCentury := inCycle - 36524 * centuries
  let years := min 3 (inCentury % 1461 / 365)
  400 * (n / 146097) + 100 * centuries + 4 * (inCentury / 1461) + years + 1

/-- The lengths of the months of a year, in order. -/
def monthLengths (year : Nat) : List Nat :=
  [31, if isLeapYear year then 29 else 28, 31, 30, 31, 30, 31, 31, 30, 31, 30, 31]

/-- The number of whole periods, of the given lengths, before a day, and its place in the next. -/
def locate : List Nat → Nat → Nat × Nat
  | [], n => (0, n)
  | length :: rest, n =>
    if n < length then (0, n)
    else
      let (periods, place) := locate rest (n - length)
      (periods + 1, place)

/-! ## Dates -/

/-- A year, a month and a day, the last two counted from one. -/
structure Date where
  year : Nat
  month : Nat
  day : Nat
deriving DecidableEq

/-- The last year of the calendar. -/
def maxYear : Nat := 9999

/-- The number of days of the calendar. -/
def totalDays : Nat := daysBeforeYear (maxYear + 1)

namespace Date

/-- Whether there is such a date. -/
def IsValid (d : Date) : Prop :=
  1 ≤ d.year ∧ d.year ≤ maxYear ∧ 1 ≤ d.month ∧ 1 ≤ d.day ∧
    ∃ length, (monthLengths d.year)[d.month - 1]? = some length ∧ d.day ≤ length

instance (d : Date) : Decidable d.IsValid :=
  have : Decidable (∃ length, (monthLengths d.year)[d.month - 1]? = some length ∧
      d.day ≤ length) :=
    match h : (monthLengths d.year)[d.month - 1]? with
    | some length => decidable_of_iff (d.day ≤ length) (by simp)
    | none => isFalse (by simp)
  inferInstanceAs (Decidable (_ ∧ _))

/-- The number of days before a date. -/
def dayNumber (d : Date) : Nat :=
  daysBeforeYear d.year + ((monthLengths d.year).take (d.month - 1)).foldl (· + ·) 0 + (d.day - 1)

/-- The date that has a number of days before it. -/
def ofDayNumber (n : Nat) : Date :=
  let year := yearOfDay n
  let (months, days) := locate (monthLengths year) (n - daysBeforeYear year)
  ⟨year, months + 1, days + 1⟩

end Date

end Attribution.Calendar
