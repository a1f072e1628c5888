import Attribution.Moment
import Attribution.Proofs.Calendar
import Attribution.Proofs.Offset
import Attribution.Proofs.Rule.Fields
import Attribution.Proofs.Span

/-!
# Moments and their timestamps

A moment of whole seconds and its timestamp come to the same.

- `Moment.IsWhole`: a moment of whole seconds on a day of the calendar.
- `Moment.ofSeconds_seconds`, `Moment.seconds_ofSeconds`: a moment as a count of seconds, and back.
- `Moment.ofTimestamp_eq_ok_iff`: the timestamps that have a moment in a zone, and this moment.
- `Moment.timestamp_of_isWhole`: the timestamp of a moment, in seconds and minutes.
-/

namespace Attribution

/-! ## Times of day -/

namespace TimeOfDay

theorem ofSeconds_seconds {t : TimeOfDay} (h : t.IsValid) (hwhole : t.microsecond = 0) :
    ofSeconds t.seconds = t := by
  obtain ⟨hour, minute, second, microsecond⟩ := t
  obtain ⟨-, hminute, hsecond, -⟩ := h
  simp only [ofSeconds, seconds, mk.injEq] at *
  omega

theorem seconds_ofSeconds (n : Nat) : (ofSeconds n).seconds = n := by
  simp only [ofSeconds, seconds]
  omega

theorem seconds_lt {t : TimeOfDay} (h : t.IsValid) : t.seconds < 86400 := by
  obtain ⟨hhour, hminute, hsecond, -⟩ := h
  simp only [seconds]
  omega

theorem isValid_ofSeconds {n : Nat} (h : n < 86400) : (ofSeconds n).IsValid := by
  simp only [ofSeconds, IsValid]
  omega

end TimeOfDay

namespace Moment

open Calendar

/-! ## Seconds -/

/-- A moment of whole seconds, on a day of the calendar. -/
structure IsWhole (m : Moment) : Prop where
  date : m.date.IsValid
  time : m.time.IsValid
  microsecond : m.time.microsecond = 0

section Seconds

variable {m : Moment}

theorem totalSeconds_eq : totalSeconds = 315537897600 := by decide

theorem epoch_eq : epoch = 62135596800 := by decide

/-- **A moment is the one that its count of seconds says.** -/
theorem ofSeconds_seconds (h : m.IsWhole) : ofSeconds m.seconds m.offset = m := by
  have hlt := TimeOfDay.seconds_lt h.time
  have hday : m.seconds / 86400 = m.date.dayNumber := by rw [seconds]; omega
  have htime : m.seconds % 86400 = m.time.seconds := by rw [seconds]; omega
  rw [ofSeconds, hday, htime, Date.ofDayNumber_dayNumber h.date,
    TimeOfDay.ofSeconds_seconds h.time h.microsecond]

/-- **A count of seconds is that of the moment it says.** -/
theorem seconds_ofSeconds (n : Nat) (offset : Option Int) : (ofSeconds n offset).seconds = n := by
  simp only [seconds, ofSeconds, Date.dayNumber_ofDayNumber, TimeOfDay.seconds_ofSeconds,
    Nat.div_add_mod]

theorem seconds_lt (h : m.IsWhole) : (m.seconds : Int) < totalSeconds := by
  have hday := Date.dayNumber_lt h.date
  have htime := TimeOfDay.seconds_lt h.time
  rw [seconds, totalSeconds]
  omega

theorem isWhole_ofSeconds {n : Nat} (h : (n : Int) < totalSeconds) (offset : Option Int) :
    (ofSeconds n offset).IsWhole where
  date := Date.isValid_ofDayNumber (by rw [totalSeconds] at h; omega)
  time := TimeOfDay.isValid_ofSeconds (Nat.mod_lt n (by decide))
  microsecond := rfl

end Seconds

/-! ## Timestamps -/

section Timestamps

variable {m : Moment} {time minutes : Int}

theorem toZone_of_natAbs_lt (h : minutes.natAbs < 1440) :
    Offset.toZone (.int minutes) = .ok ⟨Span.minute * minutes, Offset.written minutes⟩ := by
  have hspan : Span.IsSpan (Span.minute * minutes) := by
    simp only [Span.IsSpan, Span.minute, Span.day, Span.maxDays]
    omega
  have hwrite : Offset.writeDatum (.int minutes) = .ok (Offset.written minutes) := by
    rw [Offset.writeDatum, Offset.write, Offset.write?_of_natAbs_lt (by omega)]
    rfl
  rw [Offset.toZone, hwrite, Span.ofDatum, Span.microseconds]
  show ((if Span.IsSpan (Span.minute * minutes) then _ else _ : Except Misuse Int).mapError
    Failure.misuse >>= _) = _
  rw [if_pos hspan]
  rfl

/-- **The timestamps that have a moment in a zone**: those whose universal and local time are in the
calendar, if the zone is less than a day from universal time. The moment is the local time. -/
theorem ofTimestamp_eq_ok_iff {zone : Offset.Zone} :
    ofTimestamp time minutes = .ok (m, zone) ↔
      minutes.natAbs < 1440 ∧ (0 ≤ time + epoch ∧ time + epoch < totalSeconds) ∧
        (0 ≤ time + epoch + 60 * minutes ∧ time + epoch + 60 * minutes < totalSeconds) ∧
        zone = ⟨Span.minute * minutes, Offset.written minutes⟩ ∧
        m = ofSeconds (time + epoch + 60 * minutes).toNat (some (Span.minute * minutes)) := by
  have hwords : Datum.wordLimit = 9223372036854775808 := by decide
  simp only [ofTimestamp, Except.bind_eq_ok_iff, Except.check_eq_ok_iff]
  constructor
  · rintro ⟨zone', hzone, -, huniversal, hminutes, hlocal, h⟩
    have hlt : minutes.natAbs < 1440 := by omega
    rw [toZone_of_natAbs_lt hlt] at hzone
    cases hzone
    cases h
    exact ⟨hlt, by omega, by omega, rfl, rfl⟩
  · rintro ⟨hlt, huniversal, hlocal, rfl, rfl⟩
    -- the calendar's timestamps all fit a machine word
    have hword : ¬ (time ≤ -Datum.wordLimit ∨ Datum.wordLimit ≤ time) := by
      rw [totalSeconds_eq, epoch_eq] at huniversal
      omega
    exact ⟨_, toZone_of_natAbs_lt hlt, hword, by omega, by omega, by omega, rfl⟩

/-- **The timestamp of a moment** is the number of seconds to it from the start of 1970, less the
seconds of its offset. -/
theorem timestamp_of_isWhole (h : m.IsWhole) (hminutes : minutes.natAbs < 1440) :
    m.timestamp (Span.minute * minutes) = m.seconds - epoch - 60 * minutes := by
  have hlt := seconds_lt h
  rw [totalSeconds_eq] at hlt
  have hwhole : m.microseconds (Span.minute * minutes) =
      1000000 * ((m.seconds : Int) - epoch - 60 * minutes) := by
    simp only [microseconds, h.microsecond, Span.minute]
    omega
  rw [timestamp, hwhole, Span.seconds_mul]
  rw [epoch_eq]
  omega

end Timestamps

end Moment

end Attribution
