import Attribution.Text.Utf8
import Mathlib

/-!
# UTF-8 is read as it is written

Decoding is the inverse of encoding: the bytes of a text give the text back, and
no other bytes give it.

- `Utf8.step_encodeChar`: the bytes of a character are read as this character,
  whatever follows them.
- `Utf8.eq_encodeChar_of_step`: where a character is read, its bytes stand.
- `Utf8.decode_eq_ok_iff`: the bytes that decode to a text are exactly its
  encoding.
- `Utf8.isValidUTF8_iff`: they are what the standard library takes for UTF-8.
- `Utf8.isFoundIn_of_decode`: where the first error in other bytes is found.
- `Utf8.decodeLossy_encode`: mending errors leaves such bytes as they are.
- `Utf8.exists_of_encode_eq`: a line feed cuts the bytes of a text where it cuts
  the text.
-/

namespace Attribution.Utf8

/-! ## Bytes by their numbers -/

theorem toNat_toUInt8 {n : Nat} (h : n < 256) : n.toUInt8.toNat = n := by
  show n % 256 = n
  exact Nat.mod_eq_of_lt h

theorem eq_toUInt8 {b : UInt8} {n : Nat} (h : b.toNat = n) : b = n.toUInt8 :=
  UInt8.toNat_inj.mp (by rw [toNat_toUInt8 (h ▸ b.toNat_lt), h])

theorem ofNat_eq {c : Char} {n : Nat} (h : n = c.toNat) : Char.ofNat n = c := by
  rw [h, Char.ofNat_toNat]

/-- Code points are below the limit of Unicode and no surrogates. -/
theorem scalar_bounds (c : Char) :
    c.toNat < 0xD800 ∨ 0xDFFF < c.toNat ∧ c.toNat < 0x110000 := c.valid

/-- A code point outside the surrogates is that of its character. -/
theorem toNat_ofNat {n : Nat} (h : n < 0xD800 ∨ 0xDFFF < n ∧ n < 0x110000) :
    (Char.ofNat n).toNat = n := by
  rw [Char.ofNat, dif_pos (show n.isValidChar from h)]
  rfl

/-! ## The first byte tells how many follow -/

theorem step_one {b : UInt8} (h : b.toNat < 0x80) (rest : Bytes) :
    step b rest = .scalar (Char.ofNat b.toNat) 0 := by
  unfold step
  rw [if_pos (UInt8.lt_iff_toNat_lt.mpr h)]

theorem step_two {b : UInt8} (hlow : 0xC2 ≤ b.toNat) (hhigh : b.toNat < 0xE0)
    (rest : Bytes) : step b rest = multibyte b (b.toNat - 0xC0) 0 rest := by
  unfold step
  simp only [UInt8.lt_iff_toNat_lt, UInt8.reduceToNat]
  rw [if_neg (by omega), if_neg (by omega), if_pos hhigh]

theorem step_three {b : UInt8} (hlow : 0xE0 ≤ b.toNat) (hhigh : b.toNat < 0xF0)
    (rest : Bytes) : step b rest = multibyte b (b.toNat - 0xE0) 1 rest := by
  unfold step
  simp only [UInt8.lt_iff_toNat_lt, UInt8.reduceToNat]
  rw [if_neg (by omega), if_neg (by omega), if_neg (by omega), if_pos hhigh]

theorem step_four {b : UInt8} (hlow : 0xF0 ≤ b.toNat) (hhigh : b.toNat < 0xF5)
    (rest : Bytes) : step b rest = multibyte b (b.toNat - 0xF0) 2 rest := by
  unfold step
  simp only [UInt8.lt_iff_toNat_lt, UInt8.reduceToNat]
  rw [if_neg (by omega), if_neg (by omega), if_neg (by omega), if_neg (by omega),
    if_pos hhigh]

/-- A byte that no number of bytes goes with starts no character. -/
theorem step_bad {b : UInt8}
    (h : 0x80 ≤ b.toNat ∧ b.toNat < 0xC2 ∨ 0xF5 ≤ b.toNat) (rest : Bytes) :
    step b rest = .illFormed 0 .startByte := by
  unfold step
  simp only [UInt8.lt_iff_toNat_lt, UInt8.reduceToNat]
  rw [if_neg (by omega)]
  rcases h with ⟨-, h⟩ | h
  · rw [if_pos h]
  · rw [if_neg (by omega), if_neg (by omega), if_neg (by omega), if_neg (by omega)]

/-! ## The bytes that follow -/

theorem continuation?_eq_some_iff {b : UInt8} {low : Nat} :
    continuation? b = some low ↔ b.toNat = 0x80 + low ∧ low < 0x40 := by
  unfold continuation?
  simp only [UInt8.lt_iff_toNat_lt, UInt8.le_iff_toNat_le, UInt8.reduceToNat]
  split
  · next h =>
    rw [Option.some.injEq]
    omega
  · next h =>
    constructor
    · intro hnone
      cases hnone
    · intro hlow
      omega

/-- Second bytes carry six bits as well, but some first bytes take only part of
them: the rest would be overlong forms, surrogates or too large. -/
theorem second?_eq_some_iff {b next : UInt8} {low : Nat} :
    second? b next = some low ↔
      next.toNat = 0x80 + low ∧ low < 0x40 ∧
        (b.toNat = 0xE0 → 0x20 ≤ low) ∧ (b.toNat = 0xED → low < 0x20) ∧
        (b.toNat = 0xF0 → 0x10 ≤ low) ∧ (b.toNat = 0xF4 → low < 0x10) := by
  have hbounds : ∀ lo hi : UInt8, secondBounds b = (lo, hi) →
      (second? b next = some low ↔
        (lo.toNat ≤ next.toNat ∧ next.toNat < hi.toNat) ∧
          next.toNat % 0x40 = low) := by
    intro lo hi hsb
    unfold second?
    rw [hsb]
    simp only [UInt8.lt_iff_toNat_lt, UInt8.le_iff_toNat_le]
    split
    · next h => simp [h]
    · next h => simp [h]
  have hnat : ∀ k : UInt8, b = k ↔ b.toNat = k.toNat := fun k => UInt8.toNat_inj.symm
  -- four first bytes have bounds of their own
  unfold secondBounds at hbounds
  simp only [hnat, UInt8.reduceToNat] at hbounds
  split at hbounds
  · rw [hbounds _ _ rfl]
    simp only [UInt8.reduceToNat]
    omega
  · split at hbounds
    · rw [hbounds _ _ rfl]
      simp only [UInt8.reduceToNat]
      omega
    · split at hbounds
      · rw [hbounds _ _ rfl]
        simp only [UInt8.reduceToNat]
        omega
      · split at hbounds
        · rw [hbounds _ _ rfl]
          simp only [UInt8.reduceToNat]
          omega
        · rw [hbounds _ _ rfl]
          simp only [UInt8.reduceToNat]
          omega

/-- After a first byte, a character is read where a second byte may stand. -/
theorem multibyte_eq_scalar_iff {b : UInt8} {bits more extra : Nat} {rest : Bytes}
    {c : Char} :
    multibyte b bits more rest = .scalar c extra ↔
      ∃ x tail low, rest = x :: tail ∧ second? b x = some low ∧
        continued (bits * 0x40 + low) 1 more tail = .scalar c extra := by
  constructor
  · intro h
    cases rest with
    | nil => cases h
    | cons x tail =>
      rw [multibyte] at h
      split at h
      · next low hlow => exact ⟨x, tail, low, rfl, hlow, h⟩
      · cases h
  · rintro ⟨x, tail, low, rfl, hlow, h⟩
    rw [multibyte, hlow]
    exact h

theorem continued_succ_eq_scalar_iff {bits taken more extra : Nat} {rest : Bytes}
    {c : Char} :
    continued bits taken (more + 1) rest = .scalar c extra ↔
      ∃ x tail low, rest = x :: tail ∧ continuation? x = some low ∧
        continued (bits * 0x40 + low) (taken + 1) more tail = .scalar c extra := by
  constructor
  · intro h
    cases rest with
    | nil => cases h
    | cons x tail =>
      rw [continued] at h
      split at h
      · next low hlow => exact ⟨x, tail, low, rfl, hlow, h⟩
      · cases h
  · rintro ⟨x, tail, low, rfl, hlow, h⟩
    rw [continued, hlow]
    exact h

theorem continued_zero_eq_scalar_iff {bits taken extra : Nat} {rest : Bytes}
    {c : Char} :
    continued bits taken 0 rest = .scalar c extra ↔
      Char.ofNat bits = c ∧ taken = extra := by
  rw [continued, Step.scalar.injEq]

/-! ## Single characters -/

/-- The bytes of a character are read as this character, whatever follows. -/
theorem step_encodeChar (c : Char) (rest : Bytes) :
    ∃ b bs, encodeChar c = b :: bs ∧ step b (bs ++ rest) = .scalar c bs.length := by
  have hvalid := scalar_bounds c
  -- by the number of bytes; that their bits add up to the code point is arithmetic
  unfold encodeChar
  dsimp only
  split
  · next h₁ =>
    have hb := toNat_toUInt8 (n := c.toNat) (by omega)
    refine ⟨_, [], rfl, ?_⟩
    rw [step_one (by omega), hb, Char.ofNat_toNat]
    rfl
  split
  · next h₁ h₂ =>
    have hb := toNat_toUInt8 (n := 0xC0 + c.toNat / 0x40) (by omega)
    have hx := toNat_toUInt8 (n := 0x80 + c.toNat % 0x40) (by omega)
    refine ⟨_, _, rfl, ?_⟩
    rw [step_two (by omega) (by omega), multibyte_eq_scalar_iff]
    refine ⟨_, rest, c.toNat % 0x40, rfl, second?_eq_some_iff.mpr (by omega), ?_⟩
    exact continued_zero_eq_scalar_iff.mpr ⟨ofNat_eq (by omega), rfl⟩
  split
  · next h₁ h₂ h₃ =>
    have hb := toNat_toUInt8 (n := 0xE0 + c.toNat / 0x1000) (by omega)
    have hx := toNat_toUInt8 (n := 0x80 + c.toNat / 0x40 % 0x40) (by omega)
    have hy := toNat_toUInt8 (n := 0x80 + c.toNat % 0x40) (by omega)
    refine ⟨_, _, rfl, ?_⟩
    rw [step_three (by omega) (by omega), multibyte_eq_scalar_iff]
    refine ⟨_, _, c.toNat / 0x40 % 0x40, rfl, second?_eq_some_iff.mpr (by omega), ?_⟩
    rw [continued_succ_eq_scalar_iff]
    refine ⟨_, rest, c.toNat % 0x40, rfl, continuation?_eq_some_iff.mpr (by omega), ?_⟩
    exact continued_zero_eq_scalar_iff.mpr ⟨ofNat_eq (by omega), rfl⟩
  · next h₁ h₂ h₃ =>
    have hb := toNat_toUInt8 (n := 0xF0 + c.toNat / 0x40000) (by omega)
    have hx := toNat_toUInt8 (n := 0x80 + c.toNat / 0x1000 % 0x40) (by omega)
    have hy := toNat_toUInt8 (n := 0x80 + c.toNat / 0x40 % 0x40) (by omega)
    have hz := toNat_toUInt8 (n := 0x80 + c.toNat % 0x40) (by omega)
    refine ⟨_, _, rfl, ?_⟩
    rw [step_four (by omega) (by omega), multibyte_eq_scalar_iff]
    refine ⟨_, _, c.toNat / 0x1000 % 0x40, rfl, second?_eq_some_iff.mpr (by omega), ?_⟩
    rw [continued_succ_eq_scalar_iff]
    refine ⟨_, _, c.toNat / 0x40 % 0x40, rfl, continuation?_eq_some_iff.mpr (by omega), ?_⟩
    rw [continued_succ_eq_scalar_iff]
    refine ⟨_, rest, c.toNat % 0x40, rfl, continuation?_eq_some_iff.mpr (by omega), ?_⟩
    exact continued_zero_eq_scalar_iff.mpr ⟨ofNat_eq (by omega), rfl⟩

theorem eq_encodeChar_of_step {b : UInt8} {rest : Bytes} {c : Char} {extra : Nat}
    (h : step b rest = .scalar c extra) :
    ∃ bs tail, rest = bs ++ tail ∧ bs.length = extra ∧ encodeChar c = b :: bs := by
  -- by the number of bytes that the first one announces
  by_cases h₁ : b.toNat < 0x80
  · rw [step_one h₁, Step.scalar.injEq] at h
    obtain ⟨rfl, rfl⟩ := h
    have hc := toNat_ofNat (n := b.toNat) (by omega)
    refine ⟨[], rest, rfl, rfl, ?_⟩
    unfold encodeChar
    rw [if_pos (by omega), ← eq_toUInt8 hc.symm]
  by_cases h₂ : 0xC2 ≤ b.toNat ∧ b.toNat < 0xE0
  · rw [step_two h₂.1 h₂.2, multibyte_eq_scalar_iff] at h
    obtain ⟨x, tail, low, rfl, hx, h⟩ := h
    obtain ⟨rfl, rfl⟩ := continued_zero_eq_scalar_iff.mp h
    obtain ⟨hx, hlow, -⟩ := second?_eq_some_iff.mp hx
    have hc := toNat_ofNat (n := (b.toNat - 0xC0) * 0x40 + low) (by omega)
    refine ⟨[x], tail, rfl, rfl, ?_⟩
    unfold encodeChar
    rw [if_neg (by omega), if_pos (by omega), ← eq_toUInt8 (b := b) (by omega),
      ← eq_toUInt8 (b := x) (by omega)]
  by_cases h₃ : 0xE0 ≤ b.toNat ∧ b.toNat < 0xF0
  · rw [step_three h₃.1 h₃.2, multibyte_eq_scalar_iff] at h
    obtain ⟨x, rest', low₁, rfl, hx, h⟩ := h
    obtain ⟨y, tail, low₂, rfl, hy, h⟩ := continued_succ_eq_scalar_iff.mp h
    obtain ⟨rfl, rfl⟩ := continued_zero_eq_scalar_iff.mp h
    obtain ⟨hx, hlow₁, hE0, hED, -⟩ := second?_eq_some_iff.mp hx
    obtain ⟨hy, hlow₂⟩ := continuation?_eq_some_iff.mp hy
    have hc := toNat_ofNat (n := ((b.toNat - 0xE0) * 0x40 + low₁) * 0x40 + low₂)
      (by omega)
    refine ⟨[x, y], tail, rfl, rfl, ?_⟩
    unfold encodeChar
    rw [if_neg (by omega), if_neg (by omega), if_pos (by omega),
      ← eq_toUInt8 (b := b) (by omega), ← eq_toUInt8 (b := x) (by omega),
      ← eq_toUInt8 (b := y) (by omega)]
  by_cases h₄ : 0xF0 ≤ b.toNat ∧ b.toNat < 0xF5
  · rw [step_four h₄.1 h₄.2, multibyte_eq_scalar_iff] at h
    obtain ⟨x, rest₁, low₁, rfl, hx, h⟩ := h
    obtain ⟨y, rest₂, low₂, rfl, hy, h⟩ := continued_succ_eq_scalar_iff.mp h
    obtain ⟨z, tail, low₃, rfl, hz, h⟩ := continued_succ_eq_scalar_iff.mp h
    obtain ⟨rfl, rfl⟩ := continued_zero_eq_scalar_iff.mp h
    obtain ⟨hx, hlow₁, -, -, hF0, hF4⟩ := second?_eq_some_iff.mp hx
    obtain ⟨hy, hlow₂⟩ := continuation?_eq_some_iff.mp hy
    obtain ⟨hz, hlow₃⟩ := continuation?_eq_some_iff.mp hz
    have hc := toNat_ofNat
      (n := (((b.toNat - 0xF0) * 0x40 + low₁) * 0x40 + low₂) * 0x40 + low₃) (by omega)
    refine ⟨[x, y, z], tail, rfl, rfl, ?_⟩
    unfold encodeChar
    rw [if_neg (by omega), if_neg (by omega), if_neg (by omega),
      ← eq_toUInt8 (b := b) (by omega), ← eq_toUInt8 (b := x) (by omega),
      ← eq_toUInt8 (b := y) (by omega), ← eq_toUInt8 (b := z) (by omega)]
  · rw [step_bad (by have := b.toNat_lt; omega)] at h
    cases h

/-! ## Whole texts -/

theorem decodeFrom_encode (position : Nat) (t : Text) :
    decodeFrom position (encode t) = .ok t := by
  induction t generalizing position with
  | nil => rw [encode, List.flatMap_nil, decodeFrom]
  | cons c rest ih =>
    obtain ⟨b, bs, hc, hstep⟩ := step_encodeChar c (encode rest)
    show decodeFrom position (encodeChar c ++ encode rest) = _
    rw [hc, List.cons_append, decodeFrom, hstep]
    show (decodeFrom _ ((bs ++ encode rest).drop bs.length)).map (c :: ·) = _
    rw [List.drop_left, ih]
    rfl

theorem eq_encode_of_decodeFrom {position : Nat} {bytes : Bytes} {t : Text}
    (h : decodeFrom position bytes = .ok t) : bytes = encode t := by
  -- along the decoder, which takes one character at a time
  fun_induction decodeFrom position bytes generalizing t with
  | case1 =>
    cases h
    rfl
  | case2 position b rest c extra hstep ih =>
    obtain ⟨bs, tail, rfl, rfl, hc⟩ := eq_encodeChar_of_step hstep
    rw [List.drop_left] at ih h
    cases hrest : decodeFrom (position + 1 + bs.length) tail with
    | error e =>
      rw [hrest] at h
      cases h
    | ok t' =>
      rw [hrest] at h
      cases h
      show b :: (bs ++ tail) = encodeChar c ++ encode t'
      rw [hc, ← ih hrest]
      rfl
  | case3 => cases h

/-- **Decoding inverts encoding**: bytes decode to a text exactly if they are the
encoding of the text. -/
theorem decode_eq_ok_iff {bytes : Bytes} {t : Text} :
    decode bytes = .ok t ↔ bytes = encode t :=
  ⟨eq_encode_of_decodeFrom, fun h => h ▸ decodeFrom_encode 0 t⟩

theorem exists_error_iff {bytes : Bytes} :
    (∃ f, decode bytes = .error f) ↔ ∀ t, bytes ≠ encode t := by
  simp only [ne_eq, ← decode_eq_ok_iff]
  cases decode bytes <;> simp

/-- The bytes of a text are read as the text also where errors are mended. -/
theorem decodeLossy_encode (t : Text) : decodeLossy (encode t) = t := by
  induction t with
  | nil => rw [encode, List.flatMap_nil, decodeLossy]
  | cons c rest ih =>
    obtain ⟨b, bs, hc, hstep⟩ := step_encodeChar c (encode rest)
    show decodeLossy (encodeChar c ++ encode rest) = _
    rw [hc, List.cons_append, decodeLossy, hstep]
    show c :: decodeLossy ((bs ++ encode rest).drop bs.length) = _
    rw [List.drop_left, ih]

/-! ## The standard library's encoding -/

/-- The bytes of a character are those that the standard library gives it. -/
theorem encodeChar_eq_utf8EncodeChar (c : Char) : encodeChar c = String.utf8EncodeChar c := by
  have hvalid := scalar_bounds c
  have hnat : c.val.toNat = c.toNat := rfl
  unfold encodeChar String.utf8EncodeChar
  dsimp only
  rw [hnat]
  -- the marks of the first byte leave room for its bits
  split
  · rw [if_pos (by omega)]
  split
  · rw [if_neg (by omega), if_pos (by omega), Nat.mod_eq_of_lt (b := 32) (by omega)]
    simp only [Nat.add_comm]
  split
  · rw [if_neg (by omega), if_neg (by omega), if_pos (by omega),
      Nat.mod_eq_of_lt (b := 16) (by omega)]
    simp only [Nat.add_comm]
  · rw [if_neg (by omega), if_neg (by omega), if_neg (by omega),
      Nat.mod_eq_of_lt (b := 8) (by omega)]
    simp only [Nat.add_comm]

theorem toByteArray_encode (t : Text) : (encode t).toByteArray = t.utf8Encode := by
  rw [encode, funext encodeChar_eq_utf8EncodeChar]
  rfl

/-- **The bytes of texts** are those that the standard library takes for UTF-8. -/
theorem isValidUTF8_iff {bytes : Bytes} :
    bytes.toByteArray.IsValidUTF8 ↔ ∃ t, bytes = encode t := by
  constructor
  · rintro ⟨t, ht⟩
    rw [← toByteArray_encode] at ht
    exact ⟨t, List.toByteArray_inj.mp ht⟩
  · rintro ⟨t, rfl⟩
    exact ⟨t, toByteArray_encode t⟩

/-! ## Errors -/

/-- An error is found in bytes where those of some text end and those of no character follow. -/
def DecodeFailure.IsFoundIn (f : DecodeFailure) (bytes : Bytes) : Prop :=
  ∃ t rest, bytes = encode t ++ f.first :: (f.others ++ rest) ∧ f.position = (encode t).length ∧
    ∀ c, ¬ encodeChar c <+: f.first :: (f.others ++ rest)

theorem not_isPrefix_of_step {b : UInt8} {rest : Bytes} {extra : Nat} {reason : Reason}
    (h : step b rest = .illFormed extra reason) (c : Char) : ¬ encodeChar c <+: b :: rest := by
  rintro ⟨tail, htail⟩
  obtain ⟨b', bs, hc, hstep⟩ := step_encodeChar c tail
  rw [hc, List.cons_append] at htail
  obtain ⟨rfl, rfl⟩ := List.cons.inj htail
  rw [h] at hstep
  cases hstep

/-- The first error in the bytes that start at some offset is found there. -/
theorem exists_of_decodeFrom_eq_error {position : Nat} {bytes : Bytes} {f : DecodeFailure}
    (h : decodeFrom position bytes = .error f) :
    ∃ t rest, bytes = encode t ++ f.first :: (f.others ++ rest) ∧
      f.position = position + (encode t).length ∧
      ∀ c, ¬ encodeChar c <+: f.first :: (f.others ++ rest) := by
  -- along the decoder: the characters read so far are those of the text
  fun_induction decodeFrom position bytes with
  | case1 => cases h
  | case2 position b rest c extra hstep ih =>
    obtain ⟨bs, tail, rfl, rfl, hc⟩ := eq_encodeChar_of_step hstep
    rw [List.drop_left] at ih h
    cases hrest : decodeFrom (position + 1 + bs.length) tail with
    | ok t =>
      rw [hrest] at h
      cases h
    | error f' =>
      rw [hrest] at h
      cases h
      obtain ⟨t, rest, rfl, hposition, hnone⟩ := ih hrest
      have hencode : encode (c :: t) = b :: (bs ++ encode t) := by
        show encodeChar c ++ encode t = _
        rw [hc, List.cons_append]
      refine ⟨c :: t, rest, ?_, ?_, hnone⟩
      · rw [hencode, List.cons_append, List.append_assoc]
      · rw [hposition, hencode, List.length_cons, List.length_append]
        omega
  | case3 position b rest extra reason hstep =>
    cases h
    refine ⟨[], rest.drop extra, ?_, (Nat.add_zero _).symm, ?_⟩
    · rw [List.take_append_drop]
      rfl
    · rw [List.take_append_drop]
      exact not_isPrefix_of_step hstep

/-- **The first error in bytes is found** where the longest text at their start ends. -/
theorem isFoundIn_of_decode {bytes : Bytes} {f : DecodeFailure} (h : decode bytes = .error f) :
    f.IsFoundIn bytes := by
  obtain ⟨t, rest, hbytes, hposition, hnone⟩ := exists_of_decodeFrom_eq_error h
  exact ⟨t, rest, hbytes, by rw [hposition, Nat.zero_add], hnone⟩

/-! ## Texts one after the other -/

/-- The bytes of two texts stand one after the other as the texts do. -/
theorem encode_append (t u : Text) : encode (t ++ u) = encode t ++ encode u :=
  List.flatMap_append

theorem toNat_of_mem_encodeChar {c : Char} {b : UInt8} (h : b ∈ encodeChar c)
    (hb : b.toNat < 0x80) : c.toNat = b.toNat := by
  have hvalid := scalar_bounds c
  -- the bytes of longer encodings are all marked as such
  have hlarge : ∀ n : Nat, b = n.toUInt8 → 0x80 ≤ n → n < 256 → False := by
    rintro n rfl hlow hhigh
    rw [toNat_toUInt8 hhigh] at hb
    omega
  unfold encodeChar at h
  dsimp only at h
  split at h
  · next h₁ =>
    rw [List.mem_singleton.mp h, toNat_toUInt8 (by omega)]
  split at h
  · simp only [List.mem_cons, List.not_mem_nil, or_false] at h
    rcases h with h | h
    · exact (hlarge _ h (by omega) (by omega)).elim
    · exact (hlarge _ h (by omega) (by omega)).elim
  split at h
  · simp only [List.mem_cons, List.not_mem_nil, or_false] at h
    rcases h with h | h | h
    · exact (hlarge _ h (by omega) (by omega)).elim
    · exact (hlarge _ h (by omega) (by omega)).elim
    · exact (hlarge _ h (by omega) (by omega)).elim
  · simp only [List.mem_cons, List.not_mem_nil, or_false] at h
    rcases h with h | h | h | h
    · exact (hlarge _ h (by omega) (by omega)).elim
    · exact (hlarge _ h (by omega) (by omega)).elim
    · exact (hlarge _ h (by omega) (by omega)).elim
    · exact (hlarge _ h (by omega) (by omega)).elim

/-- No character but the line feed has the byte of a line feed. -/
theorem eq_newline_of_mem {c : Char} (h : (10 : UInt8) ∈ encodeChar c) : c = '\n' := by
  have hc : c.toNat = 10 := toNat_of_mem_encodeChar h (by decide)
  rw [← Char.ofNat_toNat c, hc]

/-- **A line feed among the bytes of a text** stands between the bytes of what is before
it and of what is after it. -/
theorem exists_of_encode_eq {a b : Bytes} {t : Text} (h : encode t = a ++ 10 :: b) :
    ∃ u v, t = u ++ '\n' :: v ∧ a = encode u ∧ b = encode v := by
  induction t generalizing a with
  | nil => simp [encode] at h
  | cons c rest ih =>
    have hcons : encodeChar c ++ encode rest = a ++ 10 :: b := h
    rcases List.append_eq_append_iff.mp hcons with ⟨a', rfl, hrest⟩ | ⟨c', hc, hrest⟩
    · obtain ⟨u, v, rfl, rfl, rfl⟩ := ih hrest
      exact ⟨c :: u, v, rfl, rfl, rfl⟩
    · cases c' with
      | nil =>
        obtain ⟨u, v, rfl, hu, rfl⟩ := ih (a := []) hrest.symm
        refine ⟨c :: u, v, rfl, ?_, rfl⟩
        show a = encodeChar c ++ encode u
        rw [hc, ← hu, List.append_nil, List.append_nil]
      | cons first c' =>
        obtain ⟨rfl, rfl⟩ := List.cons.inj hrest
        -- the byte stands alone for its character
        obtain rfl := eq_newline_of_mem (c := c) (by simp [hc])
        have hsingle : [10] = a ++ 10 :: c' := hc
        obtain ⟨rfl, hnil⟩ := List.singleton_eq_append_iff.mp hsingle |>.resolve_right (by simp)
        obtain rfl : c' = [] := by simpa using hnil
        exact ⟨[], rest, rfl, rfl, rfl⟩

end Attribution.Utf8
