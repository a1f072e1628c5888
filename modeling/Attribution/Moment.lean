import Attribution.Calendar
import Attribution.Offset

/-!
# Moments

Points in time as a local date and time of day, and as seconds from the start of 1970 in universal
time.

- `TimeOfDay`, `Moment`: a local date and time with its offset.
- `Moment.ofTimestamp`: the moment of a timestamp in a fixed zone.
- `Moment.timestamp`: the timestamp of a moment.
- `Moment.write`: a moment as text.
- `Moment.ofFields`: a moment from the numbers a caller gives.
-/

namespace Attribution

/-- A time of day down to microseconds. -/
structure TimeOfDay where
  hour : Nat
  minute : Nat
  second : Nat
  microsecond : Nat
deriving DecidableEq

namespace TimeOfDay

/-- Whether there is such a time of day. -/
def IsValid (t : TimeOfDay) : Prop :=
  t.hour < 24 ∧ t.minute < 60 ∧ t.second < 60 ∧ t.microsecond < 1000000

instance (t : TimeOfDay) : Decidable t.IsValid := inferInstanceAs (Decidable (_ ∧ _))

/-- The whole seconds since midnight. -/
def seconds (t : TimeOfDay) : Nat := 3600 * t.hour + 60 * t.minute + t.second

/-- The time of day so many seconds after midnight. -/
def ofSeconds (n : Nat) : TimeOfDay := ⟨n / 3600, n / 60 % 60, n % 60, 0⟩

end TimeOfDay

/-- How the distance of a local time from universal time is given: not at all, as the offset of a
fixed zone in minutes, or exactly in microseconds. -/
inductive LocalZone
  | unknown
  | fixed (minutes : Datum)
  | exact (microseconds : Datum)

/-- The offset of a zone in microseconds, if it is known. It must be a span of time, and an exact
one less than a day. -/
def LocalZone.offset? : LocalZone → Except Failure (Option Int)
  | unknown => .ok none
  | fixed minutes => (Offset.toZone minutes).map fun zone => some zone.microseconds
  | exact microseconds => do
    let span ← (Span.ofDatum 1 microseconds).mapError .misuse
    if span.natAbs < Span.day then return some span else throw (.misuse .invalidValue)

/-- A local date and time of day with its offset in microseconds, if that is known. -/
structure Moment where
  date : Calendar.Date
  time : TimeOfDay
  offset : Option Int
deriving DecidableEq

namespace Moment

open Calendar

/-- The seconds from the start of year one to the start of 1970. -/
def epoch : Int := 86400 * (Date.dayNumber ⟨1970, 1, 1⟩ : Nat)

/-- The seconds of the calendar. -/
def totalSeconds : Int := 86400 * (totalDays : Nat)

/-- The date and time of day so many seconds after the start of year one. -/
def ofSeconds (n : Nat) (offset : Option Int) : Moment :=
  ⟨Date.ofDayNumber (n / 86400), .ofSeconds (n % 86400), offset⟩

/-- The seconds from the start of year one to a local date and time of day. -/
def seconds (m : Moment) : Nat := 86400 * m.date.dayNumber + m.time.seconds

/-! ## Timestamps -/

/-- The moment of a timestamp in the zone of an offset. The offset must be a span of time and the
timestamp a 64-bit number; then the year in universal time must be in the calendar, the offset
below a day, and the local year in the calendar too. -/
def ofTimestamp (time offset : Int) : Except Failure (Moment × Offset.Zone) := do
  let zone ← Offset.toZone (.int offset)
  if time ≤ -Datum.wordLimit ∨ Datum.wordLimit ≤ time then throw (.misuse .overflow)
  let universal := time + epoch
  if universal < 0 ∨ totalSeconds ≤ universal then throw (.misuse .invalidValue)
  if offset ≤ -1440 ∨ 1440 ≤ offset then throw (.misuse .invalidValue)
  let wall := universal + 60 * offset
  if wall < 0 ∨ totalSeconds ≤ wall then throw (.misuse .overflow)
  return (ofSeconds wall.toNat (some zone.microseconds), zone)

/-- The microseconds from the start of 1970 to a moment with the given offset in microseconds. -/
def microseconds (m : Moment) (offset : Int) : Int :=
  1000000 * ((m.seconds : Int) - epoch) + m.time.microsecond - offset

/-- The timestamp of a moment with the given offset in microseconds. -/
def timestamp (m : Moment) (offset : Int) : Int := Span.seconds (m.microseconds offset)

/-! ## Text -/

/-- A number with zeros in front. -/
def padded (width n : Nat) : Text := (Numeral.digits n).leftpad width '0'

/-- An offset of so many minutes with a colon between hours and minutes. -/
def writeOffset (minutes : Int) : Text :=
  (if minutes < 0 then '-' else '+') :: padded 2 (minutes.natAbs / 60) ++
    ':' :: padded 2 (minutes.natAbs % 60)

/-- A moment as date, time of day to the second, and offset in minutes. -/
def write (m : Moment) (offset : Int) : Text :=
  padded 4 m.date.year ++ '-' :: padded 2 m.date.month ++ '-' :: padded 2 m.date.day ++
    'T' :: padded 2 m.time.hour ++ ':' :: padded 2 m.time.minute ++ ':' :: padded 2 m.time.second ++
    writeOffset offset

/-! ## Loosely typed dates -/

/-- A number of a date; it must fit 32 bits. -/
def component : Datum → Except Misuse Int
  | .bool b => .ok b.toNat
  | .int n => if n < -Datum.halfWordLimit ∨ Datum.halfWordLimit ≤ n then .error .overflow else .ok n
  | _ => .error .wrongType

/-- The moment of a year, month, day, hour, minute, second and microsecond, of which the last four
may be missing. The zone is checked first. An eighth field is refused after the others have been
looked at, and more than eight at once. -/
def ofFields (fields : List Datum) (zone : LocalZone) : Except Failure Moment := do
  let offset ← zone.offset?
  if fields.length > 8 then throw (.misuse .wrongType)
  let numbers ← ((fields.take 7).mapM component).mapError .misuse
  match numbers with
  | y :: mo :: d :: rest =>
    if fields.length > 7 then throw (.misuse .wrongType)
    let part (i : Nat) : Int := rest.getD i 0
    let date : Date := ⟨y.toNat, mo.toNat, d.toNat⟩
    let time : TimeOfDay := ⟨(part 0).toNat, (part 1).toNat, (part 2).toNat, (part 3).toNat⟩
    if date.IsValid ∧ time.IsValid ∧ ∀ n ∈ rest, 0 ≤ n then return ⟨date, time, offset⟩
    else throw (.misuse .invalidValue)
  | _ => throw (.misuse .wrongType)

end Moment

end Attribution
