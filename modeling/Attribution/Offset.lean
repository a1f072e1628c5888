import Attribution.Failure
import Attribution.Span

/-!
# Offsets from universal time

The distance of a local time from universal time in minutes, and its text: a sign, two digits of
hours and two of minutes.

- `Offset.read`: the offset that a text spells.
- `Offset.write?`: the text of an offset; more digits of hours than two are written if needed.
- `Offset.writeDatum`: the text of an offset given as a loosely typed number.
- `Offset.toZone`: the fixed zone of an offset.
-/

namespace Attribution.Offset

/-! ## Reading -/

/-- The sign in front of a text, if any, and the rest. -/
def splitSign : Text → Bool × Text
  | '-' :: rest => (true, rest)
  | '+' :: rest => (false, rest)
  | t => (false, t)

/-- The minutes that four digits spell. -/
def minutes? : Text → Option Nat
  | [a, b, c, d] => do
    let hours := 10 * (← DecimalDigit.value? a) + (← DecimalDigit.value? b)
    return 60 * hours + 10 * (← DecimalDigit.value? c) + (← DecimalDigit.value? d)
  | _ => none

/-- The text without a line feed that ends it. -/
def withoutFinalNewline (t : Text) : Text :=
  if t.getLast? = some '\n' then t.dropLast else t

/-- The offset that a text spells: an optional sign and four digits, and perhaps a line feed. -/
def read? (t : Text) : Option Int :=
  let (negative, digits) := splitSign (withoutFinalNewline t)
  (minutes? digits).map (Binary64.signed negative)

/-- The offset that a text spells, or a report on it. -/
def read (t : Text) : Except Failure Int :=
  (read? t).elim (.error (.parse (.offset t))) .ok

/-- The offset that a loosely typed value spells; only text spells one. -/
def readDatum : Datum → Except Failure Int
  | .text t => read t
  | _ => .error (.misuse .wrongType)

/-! ## Writing -/

/-- A sign, and hours and minutes in at least two digits each. -/
def compose? (negative : Bool) (hours minutes : Nat) : Option Text := do
  let hours ← Numeral.writePadded? 2 hours
  let minutes ← Numeral.writePadded? 2 minutes
  return (if negative then '-' else '+') :: hours ++ minutes

/-- The text of an offset, unless its hours have too many digits. -/
def write? (offset : Int) : Option Text :=
  compose? (offset < 0) (offset.natAbs / 60) (offset.natAbs % 60)

/-- The whole hours in so many minutes, counted in double precision: the minutes in them are rounded
to it, then their sixtieth part, and then more than half an hour left over counts as one. -/
def hoursInFloat (minutes : Nat) : Nat :=
  let (n, d) := (Binary64.nearest (minutes - minutes % 60) 1).ratio
  let (n, d) := (Binary64.nearest n (60 * d)).ratio
  if d < 2 * (n % d) then n / d + 1 else n / d

/-- The text of a finite offset in double precision, in which its hours are counted. -/
def writeFloat? (x : Binary64) : Option Text := do
  let minutes ← x.wholePart?
  compose? x.isNegative (hoursInFloat minutes) (minutes % 60)

/-- A text that there must be. -/
def demand (t? : Option Text) : Except Failure Text :=
  t?.elim (.error (.misuse .invalidValue)) .ok

/-- The text of an offset, which must not have too many digits. -/
def write (offset : Int) : Except Failure Text := demand (write? offset)

/-- The text of an offset given as a loosely typed number, which must be finite. -/
def writeDatum : Datum → Except Failure Text
  | .bool b => write b.toNat
  | .int n => write n
  | .float x => demand (writeFloat? x)
  | _ => .error (.misuse .wrongType)

/-! ## Zones -/

/-- A zone with the same offset all year: the offset in microseconds and the name made of it. -/
structure Zone where
  microseconds : Int
  name : Text

/-- The fixed zone of an offset given as a loosely typed number; it must be a span of time. -/
def toZone (offset : Datum) : Except Failure Zone := do
  let span ← (Span.ofDatum Span.minute offset).mapError .misuse
  return ⟨span, ← writeDatum offset⟩

end Attribution.Offset
