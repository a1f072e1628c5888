import Attribution.Moment

/-!
# Signatures

Who did something and when: the identity, the timestamp and the offset of the local time.

- `Identity`: a text fit to be the name or the email of a signature.
- `Signature`: a name, an email, a timestamp and an offset in minutes.
- `Signature.make`: the signature of loosely typed parts, if they are fit.
- `Signature.write?`: the signature as text.
- `Signature.moment`, `Signature.ofMoment`: the local date and time of a signature, and back.
-/

namespace Attribution

/-! ## Names and emails -/

namespace Identity

/-- The characters that no name or email in a signature holds. -/
def isForbidden (c : Char) : Bool := c == '<' || c == '>' || c == '\n' || c == '\x00'

/-- Whether a text is fit for a signature: not empty, no blanks at its ends, nothing forbidden. -/
def IsFit (t : Text) : Prop := t ≠ [] ∧ t.strip = t ∧ t.any isForbidden = false

end Identity

/-- A text fit to be the name or the email of a signature. -/
abbrev Identity := { t : Text // Identity.IsFit t }

/-- The name or email that a loosely typed value gives, without the blanks at its ends. -/
def Identity.ofDatum (part : IdentityPart) : Datum → Except IdentityFailure Identity
  | .text t =>
    if hne : t.strip = [] then .error (.empty part)
    else if hany : t.strip.any isForbidden then .error (.forbidden part t.strip)
    else .ok ⟨t.strip, hne, t.strip_strip, Bool.not_eq_true _ ▸ hany⟩
  | d => .error (.notText part d.typeName)

/-! ## Signatures -/

/-- An identity together with the moment it acted: a timestamp in seconds and the offset of the
local time in minutes. -/
structure Signature where
  name : Identity
  email : Identity
  time : Int
  offset : Int
deriving DecidableEq

namespace Signature

/-- The signature of a loosely typed name and email and of numbers. -/
def ofParts (name email : Datum) (time offset : Int) : Except Failure Signature := do
  let name ← (Identity.ofDatum .name name).mapError .identity
  let email ← (Identity.ofDatum .email email).mapError .identity
  return ⟨name, email, time, offset⟩

/-- The signature of loosely typed parts; the name is checked first, the offset last. -/
def make (name email time offset : Datum) : Except Failure Signature := do
  let name ← (Identity.ofDatum .name name).mapError .identity
  let email ← (Identity.ofDatum .email email).mapError .identity
  let time ← time.toInt.mapError .misuse
  let offset ← offset.toInt.mapError .misuse
  return ⟨name, email, time, offset⟩

/-- The signature with another name or email; a null stands for the present one. -/
def replace (s : Signature) (name email : Datum) : Except Failure Signature :=
  let keep (d : Datum) (present : Identity) : Datum :=
    match d with
    | .null => .text present.val
    | d => d
  ofParts (keep name s.name) (keep email s.email) s.time s.offset

/-! ## Text -/

/-- The signature as it stands in a commit header, unless a number has too many digits. -/
def write? (s : Signature) : Option Text := do
  let time ← Numeral.write? s.time
  let offset ← Offset.write? s.offset
  return s.name.val ++ " <".toList ++ s.email.val ++ "> ".toList ++ time ++ ' ' :: offset

/-- The signature as it stands in a commit header. -/
def write (s : Signature) : Except Failure Text :=
  s.write?.elim (.error (.misuse .invalidValue)) .ok

/-- The signature with its parts told apart. -/
def describe (s : Signature) : Except Failure Text :=
  let described : Option Text := do
    let time ← Numeral.write? s.time
    let offset ← Numeral.write? s.offset
    return "Signature(".toList ++
      Text.join ", ".toList [s.name.val.quoted, s.email.val.quoted, time, offset] ++ [')']
  described.elim (.error (.misuse .invalidValue)) .ok

/-! ## Moments -/

/-- The local date and time of a signature, and its zone. -/
def moment (s : Signature) : Except Failure (Moment × Offset.Zone) :=
  Moment.ofTimestamp s.time s.offset

/-- The signature of a moment, whose offset must be known and less than a day; it loses its fraction
of a minute. -/
def ofMoment (name email : Datum) (m : Moment) : Except Failure Signature :=
  match m.offset with
  | none => .error (.identity .noTimeZone)
  | some offset =>
    if offset.natAbs < Span.day then
      ofParts name email (m.timestamp offset) (offset / Span.minute)
    else .error (.misuse .invalidValue)

end Signature

end Attribution
