import Attribution.Offset
import Attribution.Proofs.Numeral

/-!
# Offsets written and read again

- `Offset.Spells`: the offset that a text spells, an optional sign and two digits each of
  hours and of minutes.
- `Offset.read?_eq_some_iff`: this offset is the one that is read.
- `Offset.written`: the text of an offset.
- `Offset.write?_eq_some_iff`: the offsets that have a text, and that it is this one.
- `Offset.spells_written_iff`: only the text of an offset of less than a hundred hours
  spells an offset, and then the same one.
-/

namespace Attribution.Offset

/-! ## Reading -/

/-- A text says a number of minutes by hours and minutes, in two digits each. -/
inductive HoursMinutes : Text → Nat → Prop
  | mk {hh mm : Text} {h m : Nat} (hhours : Numeral.Spells hh h) (hhlen : hh.length = 2)
      (hminutes : Numeral.Spells mm m) (hmlen : mm.length = 2) :
      HoursMinutes (hh ++ mm) (60 * h + m)

/-- The offset that a text spells. It is negative only after a minus sign. -/
inductive Spells : Text → Int → Prop
  | unsigned {t : Text} {n : Nat} (h : HoursMinutes t n) : Spells t n
  | plus {t : Text} {n : Nat} (h : HoursMinutes t n) : Spells ('+' :: t) n
  | minus {t : Text} {n : Nat} (h : HoursMinutes t n) : Spells ('-' :: t) (-n)

section Reading

variable {t : Text} {n : Nat} {offset : Int}

theorem HoursMinutes.length (h : HoursMinutes t n) : t.length = 4 := by
  cases h with
  | mk _ hhlen _ hmlen => simp [hhlen, hmlen]

theorem HoursMinutes.isDigit (h : HoursMinutes t n) :
    ∀ c ∈ t, DecimalDigit.isDigit c = true := by
  cases h with
  | mk hhours _ hminutes _ =>
    exact List.forall_mem_append.mpr ⟨hhours.isDigit, hminutes.isDigit⟩

theorem spells_pair_iff {a b : Char} :
    Numeral.Spells [a, b] n ↔
      ∃ d e, DecimalDigit.value? a = some d ∧ DecimalDigit.value? b = some e ∧
        n = 10 * d + e := by
  constructor
  · intro h
    obtain ⟨-, vs, hvs, rfl⟩ := Numeral.spells_iff.mp h
    obtain ⟨ds, e, hds, he, rfl⟩ := (Numeral.mapM_value?_append_singleton [a] b vs).mp hvs
    obtain ⟨ds', d, hds', hd, rfl⟩ := (Numeral.mapM_value?_append_singleton [] a ds).mp hds
    obtain rfl : ds' = [] := by simpa [eq_comm] using hds'
    exact ⟨d, e, hd, he, by simp [Numeral.value]⟩
  · rintro ⟨d, e, hd, he, rfl⟩
    exact .more (.digit hd) he

/-- Minutes are read where four digits spell hours and minutes. -/
theorem minutes?_eq_some_iff : minutes? t = some n ↔ HoursMinutes t n := by
  constructor
  · intro h
    unfold minutes? at h
    split at h
    · next a b c d =>
      simp only [Option.bind_eq_bind, Option.bind_eq_some_iff, Option.pure_def,
        Option.some.injEq] at h
      obtain ⟨h₁, ha, h₂, hb, m₁, hc, m₂, hd, rfl⟩ := h
      have hmk : HoursMinutes ([a, b] ++ [c, d]) (60 * (10 * h₁ + h₂) + (10 * m₁ + m₂)) :=
        .mk (spells_pair_iff.mpr ⟨h₁, h₂, ha, hb, rfl⟩) rfl
          (spells_pair_iff.mpr ⟨m₁, m₂, hc, hd, rfl⟩) rfl
      rwa [← Nat.add_assoc] at hmk
    · cases h
  · intro h
    cases h with
    | mk hhours hhlen hminutes hmlen =>
      obtain ⟨a, b, rfl⟩ := List.length_eq_two.mp hhlen
      obtain ⟨c, d, rfl⟩ := List.length_eq_two.mp hmlen
      obtain ⟨h₁, h₂, ha, hb, rfl⟩ := spells_pair_iff.mp hhours
      obtain ⟨m₁, m₂, hc, hd, rfl⟩ := spells_pair_iff.mp hminutes
      simp [minutes?, ha, hb, hc, hd, Nat.add_assoc]

theorem splitSign_of_isDigit (h : ∀ c ∈ t, DecimalDigit.isDigit c = true) :
    splitSign t = (false, t) := by
  have hminus : '-' ∉ t := not_mem_of_forall h (by decide)
  have hplus : '+' ∉ t := not_mem_of_forall h (by decide)
  unfold splitSign
  split
  · exact absurd (List.mem_cons_self ..) hminus
  · exact absurd (List.mem_cons_self ..) hplus
  · rfl

theorem spells_iff :
    Spells t offset ↔
      ∃ n, minutes? (splitSign t).2 = some n ∧ Binary64.signed (splitSign t).1 n = offset := by
  constructor
  · intro h
    cases h with
    | unsigned h =>
      rw [splitSign_of_isDigit h.isDigit]
      exact ⟨_, minutes?_eq_some_iff.mpr h, rfl⟩
    | plus h => exact ⟨_, minutes?_eq_some_iff.mpr h, rfl⟩
    | minus h => exact ⟨_, minutes?_eq_some_iff.mpr h, rfl⟩
  · rintro ⟨n, hn, rfl⟩
    unfold splitSign at hn ⊢
    split at hn
    · exact .minus (minutes?_eq_some_iff.mp hn)
    · exact .plus (minutes?_eq_some_iff.mp hn)
    · exact .unsigned (minutes?_eq_some_iff.mp hn)

/-- **The offset that is read is the one that the text spells**, a final line feed aside. -/
theorem read?_eq_some_iff :
    read? t = some offset ↔ Spells (withoutFinalNewline t) offset := by
  rw [spells_iff]
  exact Option.map_eq_some_iff

theorem Spells.isMark (h : Spells t offset) : ∀ c ∈ t, Numeral.isMark c = true := by
  have hdigits : ∀ {u n}, HoursMinutes u n → ∀ c ∈ u, Numeral.isMark c = true := by
    intro u n hu
    cases hu with
    | mk hhours _ hminutes _ => exact List.forall_mem_append.mpr ⟨hhours.isMark, hminutes.isMark⟩
  cases h with
  | unsigned h => exact hdigits h
  | plus h => exact List.forall_mem_cons.mpr ⟨rfl, hdigits h⟩
  | minus h => exact List.forall_mem_cons.mpr ⟨rfl, hdigits h⟩

/-- What a text spells is read from it as it is, for no line feed ends it. -/
theorem Spells.read_eq (h : Spells t offset) : read t = .ok offset := by
  have hline : '\n' ∉ t := not_mem_of_forall h.isMark (by decide)
  have hself : withoutFinalNewline t = t :=
    if_neg fun hlast => hline (List.mem_of_getLast? hlast)
  rw [read, read?_eq_some_iff.mpr (hself.symm ▸ h)]
  rfl

/-- A text spells at most one offset. -/
theorem Spells.unique {offset' : Int} (h : Spells t offset) (h' : Spells t offset') :
    offset = offset' := by
  obtain ⟨n, hn, rfl⟩ := spells_iff.mp h
  obtain ⟨n', hn', rfl⟩ := spells_iff.mp h'
  rw [hn] at hn'
  rw [Option.some.inj hn']

/-- The greatest offset that is spelled has 99 hours and 99 minutes. -/
theorem Spells.natAbs_lt (h : Spells t offset) : offset.natAbs < 6040 := by
  have hlt : ∀ {t n}, HoursMinutes t n → n < 6040 := fun h => by
    cases h with
    | mk hhours hhlen hminutes hmlen =>
      have hh := hhours.lt
      have hm := hminutes.lt
      rw [hhlen] at hh
      rw [hmlen] at hm
      omega
  cases h with
  | unsigned h => exact hlt h
  | plus h => exact hlt h
  | minus h =>
    rw [Int.natAbs_neg]
    exact hlt h

theorem Spells.length_le (h : Spells t offset) : t.length ≤ 5 := by
  cases h with
  | unsigned h => simp [h.length]
  | plus h => simp [h.length]
  | minus h => simp [h.length]

end Reading

/-! ## Writing -/

/-- The text of an offset: its sign, and its hours and minutes in at least two digits. -/
def written (offset : Int) : Text :=
  (if offset < 0 then '-' else '+') :: (Numeral.digits (offset.natAbs / 60)).leftpad 2 '0' ++
    (Numeral.digits (offset.natAbs % 60)).leftpad 2 '0'

section Writing

variable {offset : Int}

theorem isMark_written : ∀ c ∈ written offset, Numeral.isMark c = true := by
  have hsign : Numeral.isMark (if offset < 0 then '-' else '+') = true := by
    split
    · rfl
    · rfl
  exact List.forall_mem_append.mpr ⟨List.forall_mem_cons.mpr
    ⟨hsign, (Numeral.spells_leftpad 2 _).isMark⟩, (Numeral.spells_leftpad 2 _).isMark⟩

theorem write?_eq_some_iff {t : Text} :
    write? offset = some t ↔
      offset.natAbs < 60 * 10 ^ Numeral.maxDigits ∧ t = written offset := by
  have hhours : offset.natAbs / 60 < 10 ^ Numeral.maxDigits ↔
      offset.natAbs < 60 * 10 ^ Numeral.maxDigits := by
    rw [Nat.div_lt_iff_lt_mul (by decide), Nat.mul_comm]
  -- there are never too many minutes to write
  have hminutes : offset.natAbs % 60 < 10 ^ Numeral.maxDigits :=
    Nat.lt_of_lt_of_le (Nat.mod_lt _ (by decide))
      (Nat.le_trans (show 60 ≤ 10 ^ 2 by decide) (Nat.pow_le_pow_right (by decide) (by decide)))
  rw [write?, compose?, ← hhours]
  simp only [Option.bind_eq_bind, Option.bind_eq_some_iff, Option.pure_def, Option.some.injEq,
    Numeral.writePadded?_eq_some_iff, decide_eq_true_eq]
  constructor
  · rintro ⟨hh, ⟨hlt, rfl⟩, mm, ⟨-, rfl⟩, rfl⟩
    exact ⟨hlt, rfl⟩
  · rintro ⟨hlt, rfl⟩
    exact ⟨_, ⟨hlt, rfl⟩, _, ⟨hminutes, rfl⟩, rfl⟩

/-- The offsets that are spelled are far from too long to be written. -/
theorem write?_of_natAbs_lt (h : offset.natAbs < 6040) : write? offset = some (written offset) := by
  refine write?_eq_some_iff.mpr ⟨Nat.lt_trans h ?_, rfl⟩
  exact Nat.lt_of_lt_of_le (show 6040 < 60 * 10 ^ 3 by decide)
    (Nat.mul_le_mul_left 60 (Nat.pow_le_pow_right (by decide) (by decide)))

/-- An offset of less than a hundred hours is spelled by its text. -/
theorem spells_written (h : offset.natAbs < 6000) : Spells (written offset) offset := by
  have hhours : offset.natAbs / 60 < 10 ^ 2 := by omega
  have hminutes : offset.natAbs % 60 < 10 ^ 2 := by omega
  have hspelled : HoursMinutes _ (60 * (offset.natAbs / 60) + offset.natAbs % 60) :=
    .mk (Numeral.spells_leftpad 2 _) (Numeral.length_leftpad_digits (by decide) hhours)
      (Numeral.spells_leftpad 2 _) (Numeral.length_leftpad_digits (by decide) hminutes)
  rw [Nat.div_add_mod] at hspelled
  unfold written
  split
  · next hneg =>
    have hminus := Spells.minus hspelled
    rwa [show -(offset.natAbs : Int) = offset by omega] at hminus
  · next hneg =>
    have hplus := Spells.plus hspelled
    rwa [show (offset.natAbs : Int) = offset by omega] at hplus

/-- **The text of an offset spells it**, if the offset is less than a hundred hours. The
text of any other offset spells none, for it is too long. -/
theorem spells_written_iff {offset' : Int} :
    Spells (written offset) offset' ↔ offset.natAbs < 6000 ∧ offset' = offset := by
  constructor
  · intro h
    have hlt : offset.natAbs < 6000 := by
      by_contra hle
      have hhours : ¬ (Numeral.digits (offset.natAbs / 60)).length ≤ 2 := by
        rw [Numeral.length_digits_le_iff (by decide)]
        omega
      have hlen := h.length_le
      simp only [written, List.length_append, List.length_cons, List.length_leftpad] at hlen
      omega
    exact ⟨hlt, h.unique (spells_written hlt)⟩
  · rintro ⟨h, rfl⟩
    exact spells_written h

end Writing

end Attribution.Offset
