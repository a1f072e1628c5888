import Attribution.Proofs.Moment
import Attribution.Proofs.Signature.Grammar

/-!
# The moment of a signature

A signature and its local date and time come to the same.

- `Signature.ofMoment_eq`: the signature of a moment of whole seconds, in a zone of whole minutes.
- `Signature.ofMoment_moment`: the moment of a signature makes it again.
- `Signature.moment_ofMoment`: a moment in a zone of whole minutes is that of its signature.
- `Signature.moment_and_back`: both of these.
-/

namespace Attribution.Signature

variable {m : Moment} {minutes : Int}

/-- The signature of a moment of whole seconds, in a zone of whole minutes. -/
theorem ofMoment_eq (name email : Datum) (hwhole : m.IsWhole)
    (hoffset : m.offset = some (Span.minute * minutes)) (hminutes : minutes.natAbs < 1440) :
    ofMoment name email m =
      ofParts name email (m.seconds - Moment.epoch - 60 * minutes) minutes := by
  have hday : (Span.minute * minutes : Int).natAbs < Span.day := by
    simp only [Span.minute, Span.day]
    omega
  have hquotient : (Span.minute * minutes : Int) / Span.minute = minutes :=
    Int.mul_ediv_cancel_left minutes (by decide)
  simp only [ofMoment, hoffset, if_pos hday, Moment.timestamp_of_isWhole hwhole hminutes, hquotient]

/-- **The moment of a signature makes it again.** -/
theorem ofMoment_moment {s : Signature} {zone : Offset.Zone} (h : s.moment = .ok (m, zone)) :
    ofMoment (.text s.name.val) (.text s.email.val) m = .ok s := by
  obtain ⟨hminutes, -, ⟨hpos, hlt⟩, -, rfl⟩ := Moment.ofTimestamp_eq_ok_iff.mp h
  have hwhole := Moment.isWhole_ofSeconds (n := (s.time + Moment.epoch + 60 * s.offset).toNat)
    (by omega) (some (Span.minute * s.offset))
  rw [ofMoment_eq _ _ hwhole rfl hminutes, Moment.seconds_ofSeconds, ofParts_text_eq_ok_iff]
  exact ⟨s.name.property.2.1, s.email.property.2.1, by omega, rfl⟩

/-- **A moment is that of its signature**, if its zone is whole minutes from universal time and its
universal time is in the calendar too. -/
theorem moment_ofMoment {name email : Datum} {n e : Identity} {u : Moment}
    (hname : Identity.ofDatum .name name = .ok n) (hemail : Identity.ofDatum .email email = .ok e)
    (hwhole : m.IsWhole) (hoffset : m.offset = some (Span.minute * minutes))
    (hminutes : minutes.natAbs < 1440) (huniversal : u.IsWhole)
    (hsame : u.microseconds 0 = m.microseconds (Span.minute * minutes)) :
    ∃ s, ofMoment name email m = .ok s ∧ s.name = n ∧ s.email = e ∧
      s.moment = .ok (m, ⟨Span.minute * minutes, Offset.written minutes⟩) ∧
      1000000 * s.time = m.microseconds (Span.minute * minutes) := by
  have hseconds : (u.seconds : Int) = m.seconds - 60 * minutes := by
    simp only [Moment.microseconds, huniversal.microsecond, hwhole.microsecond,
      Span.minute] at hsame
    omega
  have hlocal := Moment.seconds_lt hwhole
  have hcalendar := Moment.seconds_lt huniversal
  obtain ⟨time, htime⟩ : ∃ time, m.seconds - Moment.epoch - 60 * minutes = time := ⟨_, rfl⟩
  have hback : (time + Moment.epoch + 60 * minutes).toNat = m.seconds := by omega
  refine ⟨⟨n, e, time, minutes⟩, ?_, rfl, rfl, ?_, ?_⟩
  · rw [ofMoment_eq name email hwhole hoffset hminutes, htime, ofParts, hname, hemail]
    rfl
  · show Moment.ofTimestamp time minutes = _
    refine Moment.ofTimestamp_eq_ok_iff.mpr ⟨hminutes, by omega, by omega, rfl, ?_⟩
    rw [hback, ← hoffset, Moment.ofSeconds_seconds hwhole]
  · simp only [Moment.microseconds, hwhole.microsecond, Span.minute]
    omega

/-- **Signatures and moments are inverse to each other.** The moment of a signature, if there is
one, makes the same signature with its name and email. A moment of whole seconds, in a zone of whole
minutes and of less than a day, whose universal time is in the calendar too, makes a signature with
any fit name and email. This one has the same instant as its timestamp and as its moment the same
local date, time of day and offset. -/
theorem moment_and_back :
    (∀ (s : Signature) (m : Moment) (zone : Offset.Zone), s.moment = .ok (m, zone) →
      ofMoment (.text s.name.val) (.text s.email.val) m = .ok s) ∧
    (∀ (name email : Datum) (n e : Identity) (m u : Moment) (minutes : Int),
      Identity.ofDatum .name name = .ok n → Identity.ofDatum .email email = .ok e →
      m.IsWhole → m.offset = some (Span.minute * minutes) → minutes.natAbs < 1440 →
      u.IsWhole → u.microseconds 0 = m.microseconds (Span.minute * minutes) →
      ∃ s zone, ofMoment name email m = .ok s ∧ s.name = n ∧ s.email = e ∧
        1000000 * s.time = m.microseconds (Span.minute * minutes) ∧
        s.moment = .ok (m, zone) ∧ m.offset = some zone.microseconds) := by
  refine ⟨fun s m zone h => ofMoment_moment h, ?_⟩
  intro name email n e m u minutes hname hemail hwhole hoffset hminutes huniversal hsame
  obtain ⟨s, hs, hn, he, hmoment, htime⟩ :=
    moment_ofMoment hname hemail hwhole hoffset hminutes huniversal hsame
  exact ⟨s, _, hs, hn, he, htime, hmoment, hoffset⟩

/-- Half past midnight on New Year's Day, an hour ahead of universal time. -/
def newYear : Moment := ⟨⟨1960, 1, 1⟩, ⟨0, 30, 0, 0⟩, some 3600000000⟩

/-- The instant of `newYear` in universal time, in the year before. -/
def lastYear : Moment := ⟨⟨1959, 12, 31⟩, ⟨23, 30, 0, 0⟩, some 0⟩

/-- A signature of New Year's night is made and makes its moment again. -/
theorem moment_and_back_newYear :
    (newYear.IsWhole ∧ newYear.offset = some (Span.minute * 60) ∧ lastYear.IsWhole ∧
      lastYear.microseconds 0 = newYear.microseconds (Span.minute * 60)) ∧
    ∃ s zone, ofMoment (.text " Jane ".toList) (.text "jane@x".toList) newYear = .ok s ∧
      s.name.val = "Jane".toList ∧ s.time = -315621000 ∧ s.moment = .ok (newYear, zone) ∧
      newYear.offset = some zone.microseconds ∧
      ofMoment (.text s.name.val) (.text s.email.val) newYear = .ok s := by
  have hnew : newYear.IsWhole := ⟨by decide, by decide, rfl⟩
  have hlast : lastYear.IsWhole := ⟨by decide, by decide, rfl⟩
  have hsame : lastYear.microseconds 0 = newYear.microseconds (Span.minute * 60) := by decide
  obtain ⟨s, zone, hs, hname, -, htime, hmoment, hzone⟩ := moment_and_back.2
    (.text " Jane ".toList) (.text "jane@x".toList) ⟨"Jane".toList, by decide⟩
    ⟨"jane@x".toList, by decide⟩ newYear lastYear 60 rfl rfl hnew rfl (by decide) hlast hsame
  have hmicroseconds : newYear.microseconds (Span.minute * 60) = 1000000 * (-315621000) := by decide
  refine ⟨⟨hnew, rfl, hlast, hsame⟩, s, zone, hs, congrArg Subtype.val hname, by omega, hmoment,
    hzone, moment_and_back.1 s newYear zone hmoment⟩

end Attribution.Signature
