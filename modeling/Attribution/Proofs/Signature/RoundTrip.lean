import Attribution.Proofs.Signature.Grammar

/-!
# Signatures written and read again

- `Signature.written`: the text of a signature.
- `Signature.write_eq`: the signatures that have one.
- `Signature.read_written`: what is read from it.
- `Signature.write_then_read`: both, for text and for bytes.
-/

namespace Attribution.Signature

/-! ## Writing -/

/-- The text of a signature. -/
def written (s : Signature) : Text :=
  s.name.val ++ " <".toList ++ s.email.val ++ "> ".toList ++ Numeral.ofInt s.time ++
    ' ' :: Offset.written s.offset

/-- **The signatures that have a text**: neither their timestamp nor the hours of their
offset has too many digits. -/
theorem write_eq (s : Signature) :
    s.write =
      if s.time.natAbs < 10 ^ Numeral.maxDigits ∧
          s.offset.natAbs < 60 * 10 ^ Numeral.maxDigits then .ok s.written
      else .error (.misuse .invalidValue) := by
  have hwrite : ∀ t, s.write? = some t ↔
      (s.time.natAbs < 10 ^ Numeral.maxDigits ∧
        s.offset.natAbs < 60 * 10 ^ Numeral.maxDigits) ∧ t = s.written := by
    intro t
    simp only [write?, Option.bind_eq_bind, Option.bind_eq_some_iff, Option.pure_def,
      Option.some.injEq, Numeral.write?_eq_some_iff, Offset.write?_eq_some_iff]
    constructor
    · rintro ⟨_, ⟨htime, rfl⟩, _, ⟨hoffset, rfl⟩, rfl⟩
      exact ⟨⟨htime, hoffset⟩, rfl⟩
    · rintro ⟨⟨htime, hoffset⟩, rfl⟩
      exact ⟨_, ⟨htime, rfl⟩, _, ⟨hoffset, rfl⟩, rfl⟩
  rw [write]
  split
  · next h =>
    rw [(hwrite s.written).mpr ⟨h, rfl⟩]
    rfl
  · next h =>
    have hnone : s.write? = none :=
      Option.eq_none_iff_forall_ne_some.mpr fun t ht => h ((hwrite t).mp ht).1
    rw [hnone]
    rfl

/-- The numbers of a signature that is read are far from too long to be written. -/
theorem write_of_lt {s : Signature} (htime : s.time.natAbs < 10 ^ Numeral.maxDigits)
    (hoffset : s.offset.natAbs < 6040) : s.write = .ok s.written := by
  have hoffset' := (Offset.write?_eq_some_iff.mp (Offset.write?_of_natAbs_lt hoffset)).1
  exact (write_eq s).trans (if_pos ⟨htime, hoffset'⟩)

theorem spellsTime_ofInt (n : Int) :
    SpellsTime (Numeral.ofInt n) (Numeral.digits n.natAbs).length n := by
  have hspells := Numeral.spells_digits n.natAbs
  unfold Numeral.ofInt
  split
  · next hneg =>
    have hminus := SpellsTime.minus hspells
    rwa [show -(n.natAbs : Int) = n by omega] at hminus
  · next hneg =>
    have hplain := SpellsTime.unsigned hspells
    rwa [show (n.natAbs : Int) = n by omega] at hplain

/-- Other characters than signs, digits, spaces and brackets come from the name or the
email. -/
theorem mem_written_iff {s : Signature} {c : Char} (hmark : Numeral.isMark c = false)
    (hlayout : c ∉ " <>".toList) : c ∈ s.written ↔ c ∈ s.name.val ∨ c ∈ s.email.val := by
  have htime : c ∉ Numeral.ofInt s.time :=
    not_mem_of_forall (spellsTime_ofInt s.time).isMark hmark
  have hoffset : c ∉ Offset.written s.offset := not_mem_of_forall Offset.isMark_written hmark
  have hlayout' : c ≠ ' ' ∧ c ≠ '<' ∧ c ≠ '>' := by simpa using hlayout
  simp [written, htime, hoffset, hlayout']

theorem oneLine_written (s : Signature) : '\n' ∉ s.written := by
  rw [mem_written_iff (by decide) (by decide), not_or]
  exact ⟨(Identity.any_isForbidden_eq_false_iff.mp s.name.property.2.2).2.2.1,
    (Identity.any_isForbidden_eq_false_iff.mp s.email.property.2.2).2.2.1⟩

theorem chomp_written (s : Signature) : s.written.chomp = s.written := by
  have hcr : '\r' ∉ Offset.written s.offset :=
    not_mem_of_forall Offset.isMark_written (by decide)
  refine trimEnd_eq_self fun c hc => ?_
  have hlast : c ∈ ' ' :: Offset.written s.offset := List.mem_of_getLast? (by
    rwa [written, List.getLast?_append_of_ne_nil _ (by simp)] at hc)
  rw [Bool.or_eq_false_iff, beq_eq_false_iff_ne, beq_eq_false_iff_ne]
  constructor
  · rintro rfl
    exact hcr (List.mem_of_ne_of_mem (by decide) hlast)
  · rintro rfl
    exact s.oneLine_written (List.mem_append_right _ hlast)

/-! ## Reading -/

section Reading

variable {s : Signature}

/-- A signature with an offset of less than a hundred hours is what its text spells. -/
theorem spells_written (htime : s.time.natAbs < 10 ^ Numeral.maxDigits)
    (hoffset : s.offset.natAbs < 6000) : Spells s.written s := by
  obtain ⟨⟨name, hname, hnamed, hfree⟩, ⟨email, hemail, hmailed, hfree'⟩, time, offset⟩ := s
  have hspaced : (name ++ [' ']).any Identity.isForbidden = false := by
    rw [List.any_append, hfree]
    rfl
  have hmk := Spells.mk (s := ⟨⟨name, hname, hnamed, hfree⟩, ⟨email, hemail, hmailed, hfree'⟩,
      time, offset⟩) hspaced ((Text.strip_append_singleton rfl name).trans hnamed)
    hfree' hmailed (spellsTime_ofInt time)
    ((Numeral.length_digits_le_iff (by decide)).mpr htime) (Offset.spells_written hoffset)
  simpa [written] using hmk

/-- The text of a signature has a layout only if its offset is less than a hundred hours. That of a
longer one has too many digits. -/
theorem offset_lt_of_layout {l : Layout} (h : Layout.ofText? s.written = some l) :
    s.offset.natAbs < 6000 := by
  obtain ⟨htext, -, -, o, hoffset⟩ := Layout.ofText?_eq_some_iff.mp h
  -- neither offset holds a space, so the last space is in front of both
  have hcut : ∀ {before u : Text}, s.written = before ++ ' ' :: u →
      (∀ c ∈ u, Numeral.isMark c = true) → cutLast? ' ' s.written = some (before, u) := by
    intro before u hu hmark
    exact cutLast?_eq_some_iff.mpr ⟨hu, not_mem_of_forall hmark (by decide)⟩
  have hcut₁ := hcut htext hoffset.isMark
  have hcut₂ := hcut (u := Offset.written s.offset) rfl Offset.isMark_written
  rw [hcut₁, Option.some.injEq, Prod.mk.injEq] at hcut₂
  rw [hcut₂.2] at hoffset
  exact (Offset.spells_written_iff.mp hoffset).1

/-- **What is read from the text of a signature**: the signature, or if its offset is of a
hundred hours or more, nothing. -/
theorem read_written (htime : s.time.natAbs < 10 ^ Numeral.maxDigits) :
    readText s.written =
      if s.offset.natAbs < 6000 then .ok s else .error (.parse (.signature s.written)) := by
  split
  · next hoffset =>
    rw [readText_eq_ok_iff, chomp_written]
    exact spells_written htime hoffset
  · next hoffset =>
    have hnone : Layout.ofText? s.written = none := by
      cases hl : Layout.ofText? s.written with
      | none => rfl
      | some l => exact absurd (offset_lt_of_layout hl) hoffset
    rw [readText, chomp_written, hnone]
    rfl

/-- **Signatures survive being written and read again**, as text and as bytes, if their
offset is less than a hundred hours. The text of any other signature is refused. Only an
offset with too many digits in its hours has no text in the first place. -/
theorem write_then_read (htime : s.time.natAbs < 10 ^ Numeral.maxDigits) :
    (s.offset.natAbs < 60 * 10 ^ Numeral.maxDigits →
      s.write = .ok s.written ∧
        ∀ d, d = .text s.written ∨ d = .bytes (Utf8.encode s.written) →
          read d = if s.offset.natAbs < 6000 then .ok s
            else .error (.parse (.signature s.written))) ∧
    (60 * 10 ^ Numeral.maxDigits ≤ s.offset.natAbs →
      s.write = .error (.misuse .invalidValue)) := by
  constructor
  · intro hoffset
    refine ⟨(write_eq s).trans (if_pos ⟨htime, hoffset⟩), fun d hd => ?_⟩
    rcases hd with rfl | rfl
    · exact read_written htime
    · exact (read_encode s.written).trans (read_written htime)
  · intro hoffset
    exact (write_eq s).trans (if_neg fun h => Nat.not_le_of_lt h.2 hoffset)

end Reading

/-- A short name and email at the start of time, with any offset. -/
def brief (offset : Int) : Signature :=
  ⟨⟨['A'], by decide⟩, ⟨['a'], by decide⟩, 0, offset⟩

/-- An offset west of less than an hour comes back, the first of a hundred hours is
refused, and the first with too many digits has no text. -/
theorem write_then_read_brief :
    ((brief (-50)).write = .ok "A <a> 0 -0050".toList ∧
      read (.text "A <a> 0 -0050".toList) = .ok (brief (-50))) ∧
    ((brief 6000).write = .ok "A <a> 0 +10000".toList ∧
      read (.bytes (Utf8.encode "A <a> 0 +10000".toList)) =
        .error (.parse (.signature "A <a> 0 +10000".toList))) ∧
    (brief (60 * 10 ^ Numeral.maxDigits : Nat)).write = .error (.misuse .invalidValue) := by
  have htime : ∀ offset, (brief offset).time.natAbs < 10 ^ Numeral.maxDigits := fun _ =>
    Nat.pow_pos (by decide)
  have hpow : 60 * 10 ^ 3 ≤ 60 * 10 ^ Numeral.maxDigits :=
    Nat.mul_le_mul_left 60 (Nat.pow_le_pow_right (by decide) (by decide))
  have hshort := (write_then_read (htime (-50))).1 (Nat.lt_of_lt_of_le (by decide) hpow)
  have hlong := (write_then_read (htime 6000)).1 (Nat.lt_of_lt_of_le (by decide) hpow)
  exact ⟨⟨hshort.1, hshort.2 _ (.inl rfl)⟩, ⟨hlong.1, hlong.2 _ (.inr rfl)⟩,
    (write_then_read (htime _)).2 (Nat.le_refl _)⟩

/-- An offset of a hundred hours or more does not always have a text that is refused: it may have no
text. -/
theorem not_refused_without_text :
    ¬ ∀ s : Signature, s.time.natAbs < 10 ^ Numeral.maxDigits → 6000 ≤ s.offset.natAbs →
      ∃ cause, (s.write >>= fun t => read (.text t)) = .error (.parse cause) := by
  intro h
  have hpow : 60 * 10 ^ 2 ≤ 60 * 10 ^ Numeral.maxDigits :=
    Nat.mul_le_mul_left 60 (Nat.pow_le_pow_right (by decide) (by decide))
  obtain ⟨cause, hrefused⟩ :=
    h (brief (60 * 10 ^ Numeral.maxDigits : Nat)) (Nat.pow_pos (by decide)) hpow
  have hwrite :
      (brief (60 * 10 ^ Numeral.maxDigits : Nat)).write = .error (.misuse .invalidValue) :=
    (write_eq _).trans (if_neg fun hlt => Nat.lt_irrefl _ hlt.2)
  rw [hwrite] at hrefused
  cases hrefused

end Attribution.Signature
