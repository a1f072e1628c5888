import Attribution.Text.DecimalDigit
import Attribution.Text.Trim

/-!
# Numerals

Whole numbers as decimal text. Both directions are bounded: no numeral of more than
`Numeral.maxDigits` digits is read or written.

- `Numeral.write?`: a number with a minus sign if negative.
- `Numeral.writePadded?`: a natural number with a least number of digits.
- `Numeral.value`: the number that a sequence of digits stands for.
- `Numeral.read?`: the number that a text spells, blanks around it, a sign and single underscores
  between its digits allowed, the digits of any script.
-/

namespace Attribution.Numeral

/-- The greatest number of digits that a numeral may have. -/
def maxDigits : Nat := 4300

/-! ## Writing -/

/-- The decimal digits of a natural number. -/
def digits (n : Nat) : Text := Nat.toDigits 10 n

/-- The digits of a natural number, if they are not too many. -/
def writeNat? (n : Nat) : Option Text :=
  if (digits n).length ≤ maxDigits then some (digits n) else none

/-- An integer's numeral, with a minus sign in front of a negative one. -/
def ofInt (i : Int) : Text := if i < 0 then '-' :: digits i.natAbs else digits i.natAbs

/-- An integer's numeral, if its digits are not too many. -/
def write? (i : Int) : Option Text :=
  if (digits i.natAbs).length ≤ maxDigits then some (ofInt i) else none

/-- The digits of a natural number with zeros in front up to `width`, if they are not too many. -/
def writePadded? (width n : Nat) : Option Text := (writeNat? n).map (·.leftpad width '0')

/-! ## Reading -/

/-- The number that a sequence of digits stands for, the most significant first. -/
def value (ds : List Nat) : Nat := ds.foldl (fun n d => 10 * n + d) 0

/-- The digits of a text in which an underscore may stand between two of them. -/
def grouped? (digit? : Char → Option Nat) : Text → Option (List Nat)
  | [] => none
  | [c] => (digit? c).map ([·])
  | c :: '_' :: rest => do return (← digit? c) :: (← grouped? digit? rest)
  | c :: rest => do return (← digit? c) :: (← grouped? digit? rest)

/-- The natural number that the digits of a text stand for, if they are not too many. -/
def readNat? (digit? : Char → Option Nat) (t : Text) : Option Nat := do
  let ds ← grouped? digit? t
  if ds.length ≤ maxDigits then some (value ds) else none

/-- The integer that a text without blanks spells. -/
def readSigned? (digit? : Char → Option Nat) : Text → Option Int
  | '-' :: rest => (readNat? digit? rest).map fun n => -(n : Int)
  | '+' :: rest => (readNat? digit? rest).map fun n => (n : Int)
  | t => (readNat? digit? t).map fun n => (n : Int)

/-- The blanks allowed around a numeral: all but the information separators. -/
def isMargin (c : Char) : Bool := Text.isBlank c && !(0x1C ≤ c.toNat && c.toNat ≤ 0x1F)

/-- The integer that a text spells in digits of any script. -/
def read? (t : Text) : Option Int := readSigned? DecimalDigit.value? (trim isMargin t)

/-- The integer that a byte string spells in ASCII. -/
def readBytes? (b : Bytes) : Option Int :=
  readSigned? DecimalDigit.asciiValue? (b.strip.map fun x => Char.ofNat x.toNat)

end Attribution.Numeral
