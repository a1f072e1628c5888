import Attribution.Signature.Basic

/-!
# Reading signatures

The text of a signature is a name, an email in angle brackets, a timestamp and an offset, with one
space before each of the last two.

- `Signature.Layout`: the four texts of which a signature is made.
- `Signature.Layout.ofText?`: the layout of a text.
- `Signature.read`: the signature that a text or its UTF-8 bytes spell.
-/

namespace Attribution.Signature

/-! ## Layout -/

/-- The texts of which a signature is made. -/
structure Layout where
  name : Text
  email : Text
  time : Text
  offset : Text
deriving DecidableEq

/-- What stands before and after the last occurrence of a character. -/
def cutLast? (sep : Char) (t : Text) : Option (Text × Text) :=
  match t.reverse.dropWhile (· != sep) with
  | [] => none
  | _ :: before => some (before.reverse, (t.reverse.takeWhile (· != sep)).reverse)

/-- The digits of a timestamp and whether a minus sign stands before them. -/
def timeDigits? : Text → Option (Bool × List Nat)
  | '-' :: rest => (digits? rest).map (true, ·)
  | t => (digits? t).map (false, ·)
where
  /-- The values of one or more digits. -/
  digits? (t : Text) : Option (List Nat) :=
    if t.isEmpty then none else t.mapM DecimalDigit.value?

/-- What stands before the first `<` and between it and the `>` that ends the text. Neither part
has a line feed. -/
def identityTexts? (t : Text) : Option (Text × Text) :=
  if t.getLast? = some '>' ∧ '\n' ∉ t then
    match t.dropLast.dropWhile (· != '<') with
    | [] => none
    | _ :: email => some (t.dropLast.takeWhile (· != '<'), email)
  else none

/-- The layout of a text: the last two words are the timestamp and the offset, and the first `<`
ends the name. -/
def Layout.ofText? (t : Text) : Option Layout := do
  let (rest, offset) ← cutLast? ' ' t
  let (who, time) ← cutLast? ' ' rest
  let (name, email) ← identityTexts? who
  if (timeDigits? time).isSome ∧ (Offset.minutes? (Offset.splitSign offset).2).isSome then
    some ⟨name, email, time, offset⟩
  else none

/-! ## Values -/

/-- The number that the digits of a timestamp stand for; they must not be too many. -/
def timeValue (t : Text) : Except Failure Int :=
  match timeDigits? t with
  | some (negative, ds) =>
    if ds.length ≤ Numeral.maxDigits then .ok (Binary64.signed negative (Numeral.value ds))
    else .error (.misuse .invalidValue)
  | none => .error (.misuse .invalidValue)

/-- The signature that a line spells, line ends aside. -/
def readText (line : Text) : Except Failure Signature := do
  let t := line.chomp
  match Layout.ofText? t with
  | none => throw (.parse (.signature t))
  | some layout =>
    let time ← timeValue layout.time
    let offset ← Offset.read layout.offset
    ofParts (.text layout.name) (.text layout.email) time offset

/-- The signature that a text or its UTF-8 bytes spell. -/
def read : Datum → Except Failure Signature
  | .text t => readText t
  | .bytes b =>
    match Utf8.decode b with
    | .ok t => readText t
    | .error cause => .error (.parse (.undecodableSignature cause))
  | _ => .error (.misuse .unsupported)

end Attribution.Signature
