import Attribution.Text.Basic
import Attribution.Text.Printable

/-!
# Quoted text

Text and bytes shown inside a message, so that every character can be told from every other.

- `Text.quoted`: text between quotes; what cannot be printed is written by its code point.
- `Bytes.quoted`: bytes between quotes with the mark `b` in front.
- `Text.quotedList`: quoted texts between square brackets.
-/

namespace Attribution

namespace Quoted

/-- The quote around a content: the single one, unless only single quotes occur in it. -/
def mark (hasSingle hasDouble : Bool) : Char :=
  if hasSingle && !hasDouble then '"' else '\''

/-- A number in hexadecimal, padded with zeros to `width` digits. -/
def hex (width n : Nat) : Text := (Nat.toDigits 16 n).leftpad width '0'

/-- The short escape of a character, for those that have one. -/
def shortEscape? (quote c : Char) : Option Text :=
  if c = quote ∨ c = '\\' then some ['\\', c]
  else if c = '\n' then some ['\\', 'n']
  else if c = '\r' then some ['\\', 'r']
  else if c = '\t' then some ['\\', 't']
  else none

/-- The escape of a character by its code point, in two, four or eight digits. -/
def codeEscape (n : Nat) : Text :=
  if n < 0x100 then '\\' :: 'x' :: hex 2 n
  else if n < 0x10000 then '\\' :: 'u' :: hex 4 n
  else '\\' :: 'U' :: hex 8 n

/-- A character as it stands between quotes. -/
def escape (quote c : Char) : Text :=
  (shortEscape? quote c).getD (if Text.isPrintable c then [c] else codeEscape c.toNat)

/-- A byte as it stands between quotes: only the printable ones of ASCII are shown. -/
def escapeByte (quote : Char) (b : UInt8) : Text :=
  let c := Char.ofNat b.toNat
  (shortEscape? quote c).getD (if 0x20 ≤ b ∧ b < 0x7F then [c] else codeEscape b.toNat)

end Quoted

/-- The text between quotes. -/
def Text.quoted (t : Text) : Text :=
  let quote := Quoted.mark (t.contains '\'') (t.contains '"')
  quote :: t.flatMap (Quoted.escape quote) ++ [quote]

/-- The byte string between quotes, marked as bytes. -/
def Bytes.quoted (b : Bytes) : Text :=
  let quote := Quoted.mark (b.contains 0x27) (b.contains 0x22)
  'b' :: quote :: b.flatMap (Quoted.escapeByte quote) ++ [quote]

/-- The quoted texts in square brackets with commas between them. -/
def Text.quotedList (ts : List Text) : Text :=
  '[' :: Text.join ", ".toList (ts.map Text.quoted) ++ [']']

end Attribution
