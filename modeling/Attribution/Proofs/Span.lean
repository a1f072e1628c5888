import Attribution.Span
import Mathlib

/-!
# Whole numbers in double precision

A quotient that is a whole number of at most 53 bits is not rounded, and so a span of whole seconds
that are not too many has just those seconds.

- `Binary64.wholePart?_nearest_mul`: such a quotient in double precision.
- `Span.seconds_mul`: the seconds of such a span.
-/

namespace Attribution

namespace Binary64

theorem roundQuotient_mul {d : Nat} (k : Nat) (hd : 0 < d) : roundQuotient (d * k) d = k := by
  simp [roundQuotient, Nat.mul_div_cancel_left k hd, hd]

theorem ofRounded_of_lt {significand j : Nat} (h : significand < 2 * hiddenBit) :
    ofRounded significand (-j) = .finite false significand (-j) := by
  simp only [ofRounded, if_neg h.ne]
  exact if_neg (by simp only [maxExponent]; omega)

/-- The whole part of a whole number with some binary zeros after the point. -/
theorem wholePart?_shifted (negative : Bool) (k j : Nat) :
    wholePart? (.finite negative (k * 2 ^ j) (-j)) = some k := by
  cases j with
  | zero => simp [wholePart?]
  | succ j =>
    rw [show -((j + 1 : Nat) : Int) = .negSucc j from rfl]
    simp [wholePart?, Nat.shiftRight_eq_div_pow]

/-- **A whole number of at most 53 bits is exact in double precision**, however its quotient is
written. -/
theorem wholePart?_nearest_mul {k d : Nat} (hd : 0 < d) (h : k < 2 ^ 53) :
    (nearest (d * k) d).wholePart? = some k := by
  -- the number of binary zeros with which the significand has 53 bits, and one zero more for zero
  obtain ⟨j, hj, hlt⟩ : ∃ j : Nat, max (leadingExponent (d * k) d - 52) minExponent = -(j : Int) ∧
      k * 2 ^ j < 2 * hiddenBit := by
    rcases Nat.eq_zero_or_pos k with rfl | hpos
    · refine ⟨53, ?_, by decide⟩
      rw [Nat.mul_zero, leadingExponent, if_neg (Nat.not_le.mpr hd), Nat.div_zero, Nat.log2_zero,
        minExponent]
      decide
    · have hlog : k.log2 < 53 := (Nat.log2_lt hpos.ne').mpr h
      refine ⟨52 - k.log2, ?_, ?_⟩
      · rw [leadingExponent, if_pos (Nat.le_mul_of_pos_right d hpos), Nat.mul_div_cancel_left k hd,
          minExponent]
        omega
      · calc
          k * 2 ^ (52 - k.log2) < 2 ^ (k.log2 + 1) * 2 ^ (52 - k.log2) :=
            Nat.mul_lt_mul_of_pos_right Nat.lt_log2_self (by positivity)
          _ = 2 ^ 53 := by rw [← Nat.pow_add]; congr 1; omega
          _ = 2 * hiddenBit := rfl
  have hscale : scale 2 (j : Int) (d * k) d = (d * (k * 2 ^ j), d) := by
    rw [← Nat.mul_assoc]
    rfl
  simp only [nearest, hj, neg_neg, hscale, roundQuotient_mul _ hd, ofRounded_of_lt hlt,
    wholePart?_shifted]

end Binary64

namespace Span

/-- **A span of whole seconds has these seconds**, if they have at most 53 bits. -/
theorem seconds_mul {n : Int} (h : n.natAbs < 2 ^ 53) : seconds (1000000 * n) = n := by
  rw [seconds, Int.natAbs_mul, show (1000000 : Int).natAbs = 1000000 from rfl,
    Binary64.wholePart?_nearest_mul (by decide) h]
  simp only [Option.getD_some, Binary64.signed, decide_eq_true_eq]
  split_ifs <;> omega

end Span

end Attribution
