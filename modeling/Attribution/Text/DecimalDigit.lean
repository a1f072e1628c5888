import Attribution.Text.Ranges

/-!
# Decimal digits

The decimal digits of all scripts (general category Nd), as of version 14.0 of the standard. They
come in blocks of ten in order of their values, so a block is given by its first digit.

- `DecimalDigit.value?`: the value of a decimal digit of any script.
- `DecimalDigit.asciiValue?`: the value of a digit from `0` to `9`.
-/

namespace Attribution.DecimalDigit

/-- The digits of value zero, in ascending order. -/
def zeros : List Nat := [
    0x30, 0x660, 0x6F0, 0x7C0, 0x966, 0x9E6, 0xA66, 0xAE6, 0xB66, 0xBE6, 0xC66, 0xCE6, 0xD66,
    0xDE6, 0xE50, 0xED0, 0xF20, 0x1040, 0x1090, 0x17E0, 0x1810, 0x1946, 0x19D0, 0x1A80, 0x1A90,
    0x1B50, 0x1BB0, 0x1C40, 0x1C50, 0xA620, 0xA8D0, 0xA900, 0xA9D0, 0xA9F0, 0xAA50, 0xABF0,
    0xFF10, 0x104A0, 0x10D30, 0x11066, 0x110F0, 0x11136, 0x111D0, 0x112F0, 0x11450, 0x114D0,
    0x11650, 0x116C0, 0x11730, 0x118E0, 0x11950, 0x11C50, 0x11D50, 0x11DA0, 0x16A60, 0x16AC0,
    0x16B50, 0x1D7CE, 0x1D7D8, 0x1D7E2, 0x1D7EC, 0x1D7F6, 0x1E140, 0x1E2F0, 0x1E950, 0x1FBF0]

/-- The value of a decimal digit of any script; `none` for other characters. -/
def value? (c : Char) : Option Nat :=
  (zeros.find? fun start => start ≤ c.toNat && c.toNat < start + 10).map (c.toNat - ·)

/-- The value of a digit from `0` to `9`; `none` for other characters. -/
def asciiValue? (c : Char) : Option Nat :=
  if '0' ≤ c ∧ c ≤ '9' then some (c.toNat - 48) else none

/-- Whether a character is a decimal digit of any script. -/
def isDigit (c : Char) : Bool := (value? c).isSome

theorem value?_lt {c : Char} {n : Nat} (h : value? c = some n) : n < 10 := by
  simp only [value?, Option.map_eq_some_iff] at h
  obtain ⟨start, hstart, rfl⟩ := h
  have := List.find?_some hstart
  simp only [Bool.and_eq_true, decide_eq_true_eq] at this
  omega

end Attribution.DecimalDigit
