import Attribution.Binary64.Basic
import Attribution.Numeral

/-!
# Shortest decimals

Double precision numbers as decimal text with the fewest digits that read back.

- `Decimal`: a natural number times a power of ten.
- `Decimal.nearest`: the double precision number that a decimal is read as.
- `Binary64.shortest`: the decimal of the fewest digits that is read as a number.
- `Binary64.write`: a number as text.
-/

namespace Attribution

/-- The number `coefficient * 10 ^ exponent`. -/
structure Decimal where
  coefficient : Nat
  exponent : Int
deriving DecidableEq

/-- The double precision number nearest to a decimal. -/
def Decimal.nearest (d : Decimal) : Binary64 :=
  let (numerator, denominator) := Binary64.scale 10 d.exponent d.coefficient 1
  Binary64.nearest numerator denominator

namespace Binary64

/-! ## Choosing the digits -/

/-- The number of digits that a positive quotient has before the decimal point, less the number of
zeros that come after it if there are none. -/
def wholeDigits (n d : Nat) : Int :=
  if d ≤ n then (Numeral.digits (n / d)).length else 1 - (Numeral.digits (d / n)).length

/-- The multiples of a power of ten on both sides of a quotient, the nearer one first; of two
equally near the even one. -/
def neighbours (n d : Nat) (exponent : Int) : List Decimal :=
  let (numerator, denominator) := scale 10 (-exponent) n d
  let near := roundQuotient numerator denominator
  [⟨near, exponent⟩, ⟨2 * (numerator / denominator) + 1 - near, exponent⟩]

/-- The greatest number of digits that are ever needed. -/
def maxDigits : Nat := 17

/-- The exact value of a significand times a power of two. -/
def exact (significand : Nat) : Int → Decimal
  | .ofNat e => ⟨significand * Nat.pow 2 e, 0⟩
  | .negSucc e => ⟨significand * Nat.pow 5 (e + 1), .negSucc e⟩

/-- The decimal with the fewest digits whose nearest number is the given one, which must be
positive; of several the one nearest to it. -/
def shortest (significand : Nat) (exponent : Int) : Decimal :=
  let (n, d) := scale 2 exponent significand 1
  let readsBack (decimal : Decimal) : Bool :=
    decimal.nearest = .finite false significand exponent
  let withDigits (count : Nat) : Option Decimal :=
    (neighbours n d (wholeDigits n d - (count + 1 : Nat))).find? readsBack
  ((List.range maxDigits).findSome? withDigits).getD (exact significand exponent)

/-! ## Writing them -/

/-- Digits with the decimal point after so many of them; there is a digit on both sides of it. -/
def positional (ds : Text) : Int → Text
  | .ofNat 0 => '0' :: '.' :: ds
  | .ofNat (k + 1) =>
    if ds.length ≤ k + 1 then ds.rightpad (k + 1) '0' ++ ['.', '0']
    else ds.take (k + 1) ++ '.' :: ds.drop (k + 1)
  | .negSucc k => '0' :: '.' :: List.replicate (k + 1) '0' ++ ds

/-- Digits with the decimal point after the first, if there are more, and an exponent with a sign
and at least two digits. -/
def scientific (ds : Text) (exponent : Int) : Text :=
  let fraction := if ds.length ≤ 1 then [] else '.' :: ds.drop 1
  ds.take 1 ++ fraction ++ 'e' :: (if exponent < 0 then '-' else '+') ::
    (Numeral.digits exponent.natAbs).leftpad 2 '0'

/-- A decimal as text, without zeros that end it. It is written with an exponent if it is below
`0.0001` or not below `10 ^ 16`. -/
def writeDecimal (d : Decimal) : Text :=
  let all := Numeral.digits d.coefficient
  let ds := trimEnd (· == '0') all
  let point : Int := all.length + d.exponent
  if point < -3 ∨ 16 < point then scientific ds (point - 1) else positional ds point

/-- The sign of a number as text. -/
def writeSign (negative : Bool) : Text := if negative then ['-'] else []

/-- A number as text. -/
def write : Binary64 → Text
  | .notANumber => "nan".toList
  | .infinite negative => writeSign negative ++ "inf".toList
  | .finite negative 0 _ => writeSign negative ++ "0.0".toList
  | .finite negative significand exponent =>
    writeSign negative ++ writeDecimal (shortest significand exponent)

end Binary64

end Attribution
