/-!
# Binary64 numbers

The exact values of double precision numbers, in the arithmetic of natural numbers.

- `Binary64`: not a number, an infinity, or a sign with a multiple of a power of two.
- `Binary64.ofFloat`: the value of a machine number.
- `Binary64.truncate?`: the integer part.
- `Binary64.nearest`: the number nearest to a quotient.
-/

namespace Attribution

/-- A double precision number; a finite one is `significand * 2 ^ exponent` with a sign. -/
inductive Binary64
  | notANumber
  | infinite (negative : Bool)
  | finite (negative : Bool) (significand : Nat) (exponent : Int)
deriving DecidableEq

namespace Binary64

/-! ## The machine format -/

/-- The leading bit of a significand, which the machine format leaves out. -/
def hiddenBit : Nat := 0x10000000000000

/-- The least exponent of a finite number. -/
def minExponent : Int := -1074

/-- The greatest exponent of a finite number. -/
def maxExponent : Int := 971

/-- The value that the fields of the machine format encode. -/
def ofBits (bits : Nat) : Binary64 :=
  let negative := (bits >>> 63) % 2 == 1
  let exponent : Nat := (bits >>> 52) % 2048
  let fraction := bits % hiddenBit
  if exponent = 2047 then
    if fraction = 0 then .infinite negative else .notANumber
  else if exponent = 0 then .finite negative fraction minExponent
  else .finite negative (hiddenBit + fraction) ((exponent : Int) - 1075)

/-- The value of a machine number. -/
def ofFloat (x : Float) : Binary64 := ofBits x.toBits.toNat

/-! ## Parts -/

/-- A natural number with a sign. -/
def signed (negative : Bool) (n : Nat) : Int := if negative then -n else n

/-- Whether a number is below zero. -/
def isNegative : Binary64 → Bool
  | .finite negative significand _ => negative && significand != 0
  | .infinite negative => negative
  | .notANumber => false

/-- The whole part of a finite number's distance from zero. -/
def wholePart? : Binary64 → Option Nat
  | .finite _ significand (.ofNat e) => some (significand <<< e)
  | .finite _ significand (.negSucc e) => some (significand >>> (e + 1))
  | _ => none

/-- The integer part of a finite number. -/
def truncate? (x : Binary64) : Option Int := x.wholePart?.map (signed x.isNegative)

/-! ## Rounding -/

/-- A quotient rounded to the nearest natural number, a half to the even neighbour. -/
def roundQuotient (n d : Nat) : Nat :=
  let q := n / d
  if 2 * (n % d) < d then q
  else if d < 2 * (n % d) then q + 1
  else q + q % 2

/-- The quotient `n / d` times a power of `base`, again as numerator and denominator. -/
def scale (base : Nat) (power : Int) (n d : Nat) : Nat × Nat :=
  match power with
  | .ofNat k => (n * Nat.pow base k, d)
  | .negSucc k => (n, d * Nat.pow base (k + 1))

/-- The exponent of the greatest power of two that a positive quotient reaches. -/
def leadingExponent (n d : Nat) : Int :=
  if d ≤ n then (n / d).log2 else -(((d - 1) / n).log2 + 1 : Nat)

/-- The number with a significand that may have been rounded up to one bit too many. -/
def ofRounded (significand : Nat) (exponent : Int) : Binary64 :=
  let (significand, exponent) :=
    if significand = 2 * hiddenBit then (hiddenBit, exponent + 1) else (significand, exponent)
  if maxExponent < exponent then .infinite false else .finite false significand exponent

/-- The number nearest to a quotient, of two the one with an even significand. -/
def nearest (n d : Nat) : Binary64 :=
  let exponent := max (leadingExponent n d - 52) minExponent
  let (numerator, denominator) := scale 2 (-exponent) n d
  ofRounded (roundQuotient numerator denominator) exponent

/-- The distance of a finite number from zero as numerator and denominator. -/
def ratio : Binary64 → Nat × Nat
  | .finite _ significand exponent => scale 2 exponent significand 1
  | _ => (0, 1)

end Binary64

end Attribution
