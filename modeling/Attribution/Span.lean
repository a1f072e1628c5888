import Attribution.Datum

/-!
# Spans of time

Lengths of time in whole microseconds.

- `Span.ofDatum`: so many units of time as a loosely typed number says.
- `Span.seconds`: the whole seconds of a span.
-/

namespace Attribution.Span

/-- The microseconds of a minute. -/
def minute : Nat := 60000000

/-- The microseconds of a day. -/
def day : Nat := 86400000000

/-- The greatest number of days, in either direction, that a span may have. -/
def maxDays : Int := 999999999

/-- Whether a number of microseconds is a span. -/
def IsSpan (microseconds : Int) : Prop :=
  -maxDays ≤ microseconds / day ∧ microseconds / day ≤ maxDays

instance (microseconds : Int) : Decidable (IsSpan microseconds) :=
  inferInstanceAs (Decidable (_ ∧ _))

/-- The microseconds of so many units as a number in double precision says, without its sign. The
whole units count exactly. Their fraction is multiplied in double precision, and the sum is rounded
to the nearest microsecond, a half to the even one. -/
def ofFinite (unit significand : Nat) (exponent : Int) : Nat :=
  let (n, d) := Binary64.scale 2 exponent significand 1
  let (a, b) := (Binary64.nearest (unit * (n % d)) d).ratio
  Binary64.roundQuotient (unit * (n / d) * b + a) b

/-- The microseconds of so many units as a loosely typed number says. -/
def microseconds (unit : Nat) : Datum → Except Misuse Int
  | .bool b => .ok (unit * b.toNat : Nat)
  | .int n => .ok (unit * n)
  | .float (.finite negative significand exponent) =>
    .ok (Binary64.signed negative (ofFinite unit significand exponent))
  | .float .notANumber => .error .invalidValue
  | .float (.infinite _) => .error .overflow
  | _ => .error .wrongType

/-- The span of so many units, each of `unit` microseconds. -/
def ofDatum (unit : Nat) (d : Datum) : Except Misuse Int := do
  let span ← microseconds unit d
  if IsSpan span then return span else throw .overflow

/-- The seconds of so many microseconds: whole ones toward zero, after the quotient has been rounded
to double precision. -/
def seconds (microseconds : Int) : Int :=
  let quotient := Binary64.nearest microseconds.natAbs 1000000
  Binary64.signed (microseconds < 0) (quotient.wholePart?.getD 0)

end Attribution.Span
