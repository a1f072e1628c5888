import Attribution.Numeral
import Mathlib

/-!
# Numerals written and read again

What a sequence of digits stands for, said digit by digit, and that both directions of
`Attribution.Numeral` agree with it.

- `Numeral.Spells`: the number that the digits of a text spell.
- `Numeral.spells_iff`: this number is the one that is read from the text.
- `Numeral.spells_digits`: the digits of a number spell the number.
- `Numeral.write?_eq_some_iff`: the integers that have a numeral, and what it is.
-/

namespace Attribution

theorem not_mem_of_forall {p : Char → Bool} {t : Text} (ht : ∀ c ∈ t, p c = true) {c : Char}
    (hc : p c = false) : c ∉ t := by
  intro hmem
  have hp := ht c hmem
  rw [hc] at hp
  cases hp

namespace DecimalDigit

theorem value?_digitChar {d : Nat} (h : d < 10) : value? d.digitChar = some d := by
  have hall : ∀ d < 10, value? d.digitChar = some d := by decide
  exact hall d h

end DecimalDigit

namespace Numeral

/-! ## Digits -/

/-- The characters of which numbers with a sign are made. -/
def isMark (c : Char) : Bool := c == '+' || c == '-' || DecimalDigit.isDigit c

/-- The number that the digits of a text spell, of any script and the most significant
first: each further digit counts ones, and those before it tens of what they did. -/
inductive Spells : Text → Nat → Prop
  | digit {c : Char} {d : Nat} (h : DecimalDigit.value? c = some d) : Spells [c] d
  | more {t : Text} {n : Nat} {c : Char} {d : Nat} (ht : Spells t n)
      (h : DecimalDigit.value? c = some d) : Spells (t ++ [c]) (10 * n + d)

section Spells

variable {t : Text} {n : Nat}

theorem Spells.ne_nil (h : Spells t n) : t ≠ [] := by
  cases h with
  | digit => simp
  | more => simp

theorem Spells.isDigit (h : Spells t n) : ∀ c ∈ t, DecimalDigit.isDigit c = true := by
  induction h with
  | digit h => simp [DecimalDigit.isDigit, h]
  | more _ h ih =>
    intro c hc
    rcases List.mem_append.mp hc with hc | hc
    · exact ih c hc
    · simp [DecimalDigit.isDigit, List.mem_singleton.mp hc, h]

theorem Spells.isMark (h : Spells t n) : ∀ c ∈ t, Numeral.isMark c = true := by
  intro c hc
  rw [Numeral.isMark, h.isDigit c hc, Bool.or_true]

theorem value_append_singleton (ds : List Nat) (d : Nat) :
    value (ds ++ [d]) = 10 * value ds + d := by
  simp [value]

theorem mapM_value?_append_singleton (t : Text) (c : Char) (vs : List Nat) :
    (t ++ [c]).mapM DecimalDigit.value? = some vs ↔
      ∃ ds d, t.mapM DecimalDigit.value? = some ds ∧ DecimalDigit.value? c = some d ∧
        vs = ds ++ [d] := by
  rw [List.mapM_append, List.mapM_cons, List.mapM_nil]
  cases t.mapM DecimalDigit.value? with
  | none => simp
  | some ds => cases DecimalDigit.value? c <;> simp [eq_comm]

theorem length_of_mapM_value? {vs : List Nat} (h : t.mapM DecimalDigit.value? = some vs) :
    vs.length = t.length := by
  induction t using List.reverseRecOn generalizing vs with
  | nil =>
    obtain rfl : vs = [] := by simpa [eq_comm] using h
    rfl
  | append_singleton t c ih =>
    obtain ⟨ds, d, hds, -, rfl⟩ := (mapM_value?_append_singleton t c vs).mp h
    simp [ih hds]

/-- **The number that digits spell is the one that is read from them.** -/
theorem spells_iff :
    Spells t n ↔ t ≠ [] ∧ ∃ vs, t.mapM DecimalDigit.value? = some vs ∧ value vs = n := by
  constructor
  · intro h
    refine ⟨h.ne_nil, ?_⟩
    induction h with
    | @digit c d h => exact ⟨[d], by simp [h], by simp [value]⟩
    | @more t n c d _ h ih =>
      obtain ⟨vs, hvs, rfl⟩ := ih
      refine ⟨vs ++ [d], ?_, value_append_singleton vs d⟩
      exact (mapM_value?_append_singleton t c _).mpr ⟨vs, d, hvs, h, rfl⟩
  · rintro ⟨hne, vs, hvs, rfl⟩
    -- from the last digit backwards, as the relation is built
    induction t using List.reverseRecOn generalizing vs with
    | nil => exact absurd rfl hne
    | append_singleton t c ih =>
      obtain ⟨ds, d, hds, hd, rfl⟩ := (mapM_value?_append_singleton t c vs).mp hvs
      rw [value_append_singleton]
      by_cases ht : t = []
      · subst ht
        have hnil : ds = [] := by simpa [eq_comm] using hds
        simpa [hnil, value] using Spells.digit hd
      · exact .more (ih ht ds hds) hd

theorem Spells.lt (h : Spells t n) : n < 10 ^ t.length := by
  induction h with
  | digit h => exact DecimalDigit.value?_lt h
  | more _ h ih =>
    have hd := DecimalDigit.value?_lt h
    rw [List.length_append, List.length_singleton, Nat.pow_succ]
    omega

theorem Spells.zero_cons (h : Spells t n) : Spells ('0' :: t) n := by
  induction h with
  | @digit c d h =>
    have hpair : Spells (['0'] ++ [c]) (10 * 0 + d) := .more (.digit (by decide)) h
    simpa using hpair
  | more _ h ih => exact .more ih h

theorem Spells.zeros (h : Spells t n) (k : Nat) : Spells (List.replicate k '0' ++ t) n := by
  induction k with
  | zero => exact h
  | succ k ih => exact ih.zero_cons

end Spells

/-! ## Writing -/

/-- **The digits of a number spell the number.** -/
theorem spells_digits (n : Nat) : Spells (digits n) n := by
  induction n using Nat.strongRecOn with
  | ind n ih =>
    unfold digits
    rw [Nat.toDigits_eq_if (by decide)]
    split
    · next h => exact .digit (DecimalDigit.value?_digitChar h)
    · next h =>
      have hlast := DecimalDigit.value?_digitChar (Nat.mod_lt n (show 0 < 10 by decide))
      have hsplit : 10 * (n / 10) + n % 10 = n := Nat.div_add_mod n 10
      have hmore := Spells.more (ih (n / 10) (by omega)) hlast
      rwa [hsplit] at hmore

theorem length_digits_le_iff {n k : Nat} (hk : 0 < k) :
    (digits n).length ≤ k ↔ n < 10 ^ k :=
  Nat.length_toDigits_le_iff (by decide) hk

theorem writeNat?_eq_some_iff {n : Nat} {t : Text} :
    writeNat? n = some t ↔ n < 10 ^ maxDigits ∧ t = digits n := by
  rw [writeNat?, Option.ite_none_right_eq_some, Option.some.injEq, eq_comm (a := t),
    length_digits_le_iff (by decide)]

/-- A number with zeros in front of it has a numeral if it has one without them. -/
theorem writePadded?_eq_some_iff {width n : Nat} {t : Text} :
    writePadded? width n = some t ↔
      n < 10 ^ maxDigits ∧ t = (digits n).leftpad width '0' := by
  rw [writePadded?, Option.map_eq_some_iff]
  constructor
  · rintro ⟨ds, hds, rfl⟩
    obtain ⟨hlt, rfl⟩ := writeNat?_eq_some_iff.mp hds
    exact ⟨hlt, rfl⟩
  · rintro ⟨hlt, rfl⟩
    exact ⟨digits n, writeNat?_eq_some_iff.mpr ⟨hlt, rfl⟩, rfl⟩

/-- Zeros in front of a number's digits do not change what they spell. -/
theorem spells_leftpad (width n : Nat) : Spells ((digits n).leftpad width '0') n :=
  (spells_digits n).zeros _

theorem length_leftpad_digits {width n : Nat} (hwidth : 0 < width) (h : n < 10 ^ width) :
    ((digits n).leftpad width '0').length = width := by
  have hlen : (digits n).length ≤ width := (length_digits_le_iff hwidth).mpr h
  rw [List.length_leftpad]
  omega

theorem write?_eq_some_iff {i : Int} {t : Text} :
    write? i = some t ↔ i.natAbs < 10 ^ maxDigits ∧ t = ofInt i := by
  rw [write?, Option.ite_none_right_eq_some, Option.some.injEq, eq_comm (a := t),
    length_digits_le_iff (by decide)]

end Numeral

end Attribution
