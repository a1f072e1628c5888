import Attribution.Text.Basic

/-!
# UTF-8

Text as bytes and back. An ill-formed sequence is reported as the bytes that could still have
started a character (Unicode's maximal subparts).

- `Utf8.encode`: the bytes of a text.
- `Utf8.decode`: the text of well-formed bytes, or the first ill-formed sequence with its place.
- `Utf8.decodeLossy`: each ill-formed sequence read as one replacement character.
-/

namespace Attribution.Utf8

/-! ## Encoding -/

/-- The bytes of one character: one to four, the first of which tells how many. -/
def encodeChar (c : Char) : Bytes :=
  let n := c.toNat
  if n < 0x80 then [n.toUInt8]
  else if n < 0x800 then [(0xC0 + n / 0x40).toUInt8, (0x80 + n % 0x40).toUInt8]
  else if n < 0x10000 then
    [(0xE0 + n / 0x1000).toUInt8, (0x80 + n / 0x40 % 0x40).toUInt8, (0x80 + n % 0x40).toUInt8]
  else
    [(0xF0 + n / 0x40000).toUInt8, (0x80 + n / 0x1000 % 0x40).toUInt8,
      (0x80 + n / 0x40 % 0x40).toUInt8, (0x80 + n % 0x40).toUInt8]

/-- The bytes of a text. -/
def encode (t : Text) : Bytes := t.flatMap encodeChar

/-! ## Decoding -/

/-- Why a sequence of bytes is ill-formed. -/
inductive Reason
  | startByte
  | continuationByte
  | truncated
deriving DecidableEq

/-- An ill-formed sequence: the offset of its first byte, its bytes, and what is wrong with it. -/
structure DecodeFailure where
  position : Nat
  first : UInt8
  others : Bytes
  reason : Reason
deriving DecidableEq

/-- What stands at the start of a byte string: a character or an ill-formed sequence. The number
counts the bytes it takes after the first. -/
inductive Step
  | scalar (c : Char) (extra : Nat)
  | illFormed (extra : Nat) (reason : Reason)

/-- The six bits that a continuation byte carries. -/
def continuation? (b : UInt8) : Option Nat :=
  if 0x80 ≤ b ∧ b < 0xC0 then some (b.toNat % 0x40) else none

/-- The lowest and the end of the second bytes that may follow a first byte; the bounds rule out
overlong forms, surrogates and what lies beyond the last code point. -/
def secondBounds (b : UInt8) : UInt8 × UInt8 :=
  if b = 0xE0 then (0xA0, 0xC0)
  else if b = 0xED then (0x80, 0xA0)
  else if b = 0xF0 then (0x90, 0xC0)
  else if b = 0xF4 then (0x80, 0x90)
  else (0x80, 0xC0)

/-- The bits of a second byte that may follow the first byte `b`. -/
def second? (b next : UInt8) : Option Nat :=
  let (low, high) := secondBounds b
  if low ≤ next ∧ next < high then some (next.toNat % 0x40) else none

/-- Reads the remaining continuation bytes of a character of which `bits` are known and `taken`
bytes after the first have been read. -/
def continued (bits taken : Nat) : Nat → Bytes → Step
  | 0, _ => .scalar (Char.ofNat bits) taken
  | _ + 1, [] => .illFormed taken .truncated
  | more + 1, b :: rest =>
    match continuation? b with
    | some low => continued (bits * 0x40 + low) (taken + 1) more rest
    | none => .illFormed taken .continuationByte

/-- Reads the second byte of a character whose first byte `b` carries `bits`, and `more` bytes
after it. -/
def multibyte (b : UInt8) (bits more : Nat) : Bytes → Step
  | [] => .illFormed 0 .truncated
  | next :: rest =>
    match second? b next with
    | some low => continued (bits * 0x40 + low) 1 more rest
    | none => .illFormed 0 .continuationByte

/-- What stands at the start of the bytes `b :: rest`. -/
def step (b : UInt8) (rest : Bytes) : Step :=
  if b < 0x80 then .scalar (Char.ofNat b.toNat) 0
  else if b < 0xC2 then .illFormed 0 .startByte
  else if b < 0xE0 then multibyte b (b.toNat - 0xC0) 0 rest
  else if b < 0xF0 then multibyte b (b.toNat - 0xE0) 1 rest
  else if b < 0xF5 then multibyte b (b.toNat - 0xF0) 2 rest
  else .illFormed 0 .startByte

/-- The text of the bytes that start at offset `position` of a longer byte string. -/
def decodeFrom (position : Nat) : Bytes → Except DecodeFailure Text
  | [] => .ok []
  | b :: rest =>
    match step b rest with
    | .scalar c extra => (decodeFrom (position + 1 + extra) (rest.drop extra)).map (c :: ·)
    | .illFormed extra reason => .error ⟨position, b, rest.take extra, reason⟩
termination_by bytes => bytes.length
decreasing_by
  simp only [List.length_drop, List.length_cons]
  omega

/-- The text of well-formed bytes, or the first ill-formed sequence. -/
def decode (bytes : Bytes) : Except DecodeFailure Text := decodeFrom 0 bytes

/-- The text of any bytes: an ill-formed sequence reads as one replacement character. -/
def decodeLossy : Bytes → Text
  | [] => []
  | b :: rest =>
    match step b rest with
    | .scalar c extra => c :: decodeLossy (rest.drop extra)
    | .illFormed extra _ => '\uFFFD' :: decodeLossy (rest.drop extra)
termination_by bytes => bytes.length
decreasing_by
  all_goals
    simp only [List.length_drop, List.length_cons]
    omega

end Attribution.Utf8
