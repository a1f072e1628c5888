import Attribution.Proofs.Offset
import Attribution.Proofs.Rule.Grammar
import Attribution.Proofs.Rule.Fields
import Attribution.Proofs.Text.Utf8
import Attribution.Signature.Read

/-!
# The signature that a line spells

The grammar of a line with a signature, in terms of its characters only, and that
reading a line finds exactly what the grammar gives it.

- `Signature.SpellsTime`: the timestamp that a text spells.
- `Signature.Spells`: the signature that a text spells.
- `Signature.Overlong`: a text with the parts of a signature, but too many digits in its
  timestamp.
- `Signature.Layout.ofText?_eq_some_iff`: the texts that have a layout.
- `Signature.readText_eq_ok_iff`, `Signature.readText_eq_misuse_iff`: the lines that
  are read, and those that fail for a reason outside the domain.
- `Signature.read_eq_ok_iff`, `Signature.read_line_iff_spells`: the same for text and
  bytes, and for lines alone.
-/

namespace Attribution

/-! ## The grammar -/

namespace Signature

/-- The timestamp that a text spells in so many digits. It is negative only after a
minus sign. -/
inductive SpellsTime : Text → Nat → Int → Prop
  | unsigned {t : Text} {n : Nat} (h : Numeral.Spells t n) : SpellsTime t t.length n
  | minus {t : Text} {n : Nat} (h : Numeral.Spells t n) :
      SpellsTime ('-' :: t) t.length (-n)

/-- The signature that a text spells: a name, an email in angle brackets, a timestamp of
not too many digits and an offset. The name and the email hold none of the forbidden
characters. Blanks at their ends make no difference, and something is left without these,
since no signature has an empty name or email. -/
inductive Spells : Text → Signature → Prop
  | mk {name email time offset : Text} {s : Signature} {digits : Nat}
      (hname : name.any Identity.isForbidden = false) (hnamed : name.strip = s.name.val)
      (hemail : email.any Identity.isForbidden = false) (hmailed : email.strip = s.email.val)
      (htime : SpellsTime time digits s.time) (hdigits : digits ≤ Numeral.maxDigits)
      (hoffset : Offset.Spells offset s.offset) :
      Spells (name ++ '<' :: email ++ '>' :: ' ' :: time ++ ' ' :: offset) s

/-- A text with the parts of a signature, but too many digits in its timestamp. Whether
the name and the email are fit for a signature makes no difference. -/
inductive Overlong : Text → Prop
  | mk {name email time offset : Text} {digits : Nat} {n o : Int}
      (hopen : '<' ∉ name) (hname : '\n' ∉ name) (hemail : '\n' ∉ email)
      (htime : SpellsTime time digits n) (hdigits : Numeral.maxDigits < digits)
      (hoffset : Offset.Spells offset o) :
      Overlong (name ++ '<' :: email ++ '>' :: ' ' :: time ++ ' ' :: offset)

end Signature

/-! ## Names and emails -/

namespace Identity

instance (t : Text) : Decidable (IsFit t) :=
  inferInstanceAs (Decidable (t ≠ [] ∧ t.strip = t ∧ t.any isForbidden = false))

theorem any_isForbidden_eq_false_iff {t : Text} :
    t.any isForbidden = false ↔ '<' ∉ t ∧ '>' ∉ t ∧ '\n' ∉ t ∧ '\x00' ∉ t := by
  simp only [List.any_eq_false, isForbidden, Bool.or_eq_true, beq_iff_eq, not_or]
  constructor
  · intro h
    exact ⟨fun hc => (h _ hc).1.1.1 rfl, fun hc => (h _ hc).1.1.2 rfl,
      fun hc => (h _ hc).1.2 rfl, fun hc => (h _ hc).2 rfl⟩
  · rintro ⟨hopen, hclose, hline, hnul⟩ c hc
    exact ⟨⟨⟨ne_of_mem_of_not_mem hc hopen, ne_of_mem_of_not_mem hc hclose⟩,
      ne_of_mem_of_not_mem hc hline⟩, ne_of_mem_of_not_mem hc hnul⟩

/-- A text gives the name or email that is left of it without the blanks at its ends. -/
theorem ofDatum_text_eq_ok_iff {part : IdentityPart} {t : Text} {i : Identity} :
    ofDatum part (.text t) = .ok i ↔ t.strip = i.val := by
  obtain ⟨u, hfit⟩ := i
  show _ ↔ t.strip = u
  by_cases hne : t.strip = []
  · have hempty : ofDatum part (.text t) = .error (.empty part) := dif_pos hne
    rw [hempty, hne]
    exact iff_of_false nofun (Ne.symm hfit.1)
  · by_cases hany : t.strip.any isForbidden = true
    · have hforbidden : ofDatum part (.text t) = .error (.forbidden part t.strip) :=
        (dif_neg hne).trans (dif_pos hany)
      rw [hforbidden]
      refine iff_of_false nofun fun h => ?_
      rw [h, hfit.2.2] at hany
      cases hany
    · have hfit' : IsFit t.strip := ⟨hne, t.strip_strip, Bool.not_eq_true _ ▸ hany⟩
      have hok : ofDatum part (.text t) = .ok ⟨t.strip, hfit'⟩ :=
        (dif_neg hne).trans (dif_neg hany)
      rw [hok]
      simp

/-- Of the forbidden characters, stripping can hide the line feed only. -/
theorem any_isForbidden_of_strip {t : Text} {i : Identity} (h : t.strip = i.val)
    (hline : '\n' ∉ t) : t.any isForbidden = false := by
  obtain ⟨hopen, hclose, -, hnul⟩ := any_isForbidden_eq_false_iff.mp i.property.2.2
  rw [← h] at hopen hclose hnul
  refine any_isForbidden_eq_false_iff.mpr ⟨fun hc => ?_, fun hc => ?_, hline, fun hc => ?_⟩
  · exact hopen (Text.mem_strip_of_mem hc rfl)
  · exact hclose (Text.mem_strip_of_mem hc rfl)
  · exact hnul (Text.mem_strip_of_mem hc rfl)

end Identity

namespace Signature

/-! ## Timestamps -/

section Timestamps

variable {t : Text} {digits : Nat} {n : Int}

theorem digits?_eq_some_iff {vs : List Nat} :
    timeDigits?.digits? t = some vs ↔
      Numeral.Spells t (Numeral.value vs) ∧ t.mapM DecimalDigit.value? = some vs := by
  have hdef : timeDigits?.digits? t = some vs ↔
      t ≠ [] ∧ t.mapM DecimalDigit.value? = some vs := by
    simp only [timeDigits?.digits?, Option.ite_none_left_eq_some, List.isEmpty_iff, ne_eq]
  rw [hdef, Numeral.spells_iff]
  constructor
  · rintro ⟨hne, hvs⟩
    exact ⟨⟨hne, vs, hvs, rfl⟩, hvs⟩
  · rintro ⟨⟨hne, -⟩, hvs⟩
    exact ⟨hne, hvs⟩

/-- The timestamp that a text spells is the one that is read from it. -/
theorem spellsTime_iff :
    SpellsTime t digits n ↔
      ∃ negative vs, timeDigits? t = some (negative, vs) ∧ vs.length = digits ∧
        Binary64.signed negative (Numeral.value vs) = n := by
  constructor
  · intro h
    cases h with
    | @unsigned t n h =>
      have hminus : '-' ∉ t := not_mem_of_forall h.isDigit (by decide)
      obtain ⟨-, vs, hvs, rfl⟩ := Numeral.spells_iff.mp h
      refine ⟨false, vs, ?_, Numeral.length_of_mapM_value? hvs, rfl⟩
      unfold timeDigits?
      split
      · exact absurd (List.mem_cons_self ..) hminus
      · rw [digits?_eq_some_iff.mpr ⟨h, hvs⟩]
        rfl
    | minus h =>
      obtain ⟨-, vs, hvs, rfl⟩ := Numeral.spells_iff.mp h
      refine ⟨true, vs, ?_, Numeral.length_of_mapM_value? hvs, rfl⟩
      exact congrArg (Option.map (true, ·)) (digits?_eq_some_iff.mpr ⟨h, hvs⟩)
  · rintro ⟨negative, vs, h, rfl, rfl⟩
    unfold timeDigits? at h
    split at h
    · obtain ⟨vs', hvs, heq⟩ := Option.map_eq_some_iff.mp h
      cases heq
      obtain ⟨hspells, hvs⟩ := digits?_eq_some_iff.mp hvs
      rw [Numeral.length_of_mapM_value? hvs]
      exact .minus hspells
    · obtain ⟨vs', hvs, heq⟩ := Option.map_eq_some_iff.mp h
      cases heq
      obtain ⟨hspells, hvs⟩ := digits?_eq_some_iff.mp hvs
      rw [Numeral.length_of_mapM_value? hvs]
      exact .unsigned hspells

theorem SpellsTime.isMark (h : SpellsTime t digits n) : ∀ c ∈ t, Numeral.isMark c = true := by
  cases h with
  | unsigned h => exact h.isMark
  | minus h => exact List.forall_mem_cons.mpr ⟨rfl, h.isMark⟩

theorem SpellsTime.natAbs_lt (h : SpellsTime t digits n) : n.natAbs < 10 ^ digits := by
  cases h with
  | unsigned h => exact h.lt
  | minus h =>
    rw [Int.natAbs_neg]
    exact h.lt

theorem isSome_timeDigits?_iff : (timeDigits? t).isSome ↔ ∃ digits n, SpellsTime t digits n := by
  rw [Option.isSome_iff_exists]
  constructor
  · rintro ⟨⟨negative, vs⟩, h⟩
    exact ⟨_, _, spellsTime_iff.mpr ⟨negative, vs, h, rfl, rfl⟩⟩
  · rintro ⟨digits, n, h⟩
    obtain ⟨negative, vs, h, -, -⟩ := spellsTime_iff.mp h
    exact ⟨_, h⟩

theorem SpellsTime.timeValue_eq (h : SpellsTime t digits n) :
    timeValue t =
      if digits ≤ Numeral.maxDigits then .ok n else .error (.misuse .invalidValue) := by
  obtain ⟨negative, vs, hdigits, rfl, rfl⟩ := spellsTime_iff.mp h
  rw [timeValue, hdigits]

end Timestamps

/-! ## Layout -/

section Layout

variable {sep : Char} {t a b : Text}

/-- The first occurrence of a character ends what is passed over in front of it. -/
theorem dropWhile_ne_eq_cons_iff :
    (t.takeWhile (· != sep) = a ∧ ∃ c, t.dropWhile (· != sep) = c :: b) ↔
      t = a ++ sep :: b ∧ sep ∉ a := by
  constructor
  · rintro ⟨rfl, c, hdrop⟩
    have hc : c = sep := by
      have hhead := List.head?_dropWhile_not (· != sep) t
      rw [hdrop] at hhead
      simpa using hhead
    have hsplit := List.takeWhile_append_dropWhile (p := (· != sep)) (l := t)
    rw [hdrop, hc] at hsplit
    refine ⟨hsplit.symm, fun hmem => ?_⟩
    simpa using List.mem_takeWhile_imp hmem
  · rintro ⟨rfl, ha⟩
    have ha' : ∀ c ∈ a, (c != sep) = true := fun c hc => by
      have hne : c ≠ sep := fun heq => ha (heq ▸ hc)
      simpa using hne
    obtain ⟨htake, hdrop⟩ := span_append_cons ha' (x := sep) (by simp) b
    exact ⟨htake, sep, hdrop⟩

theorem cutLast?_eq_some_iff :
    cutLast? sep t = some (a, b) ↔ t = a ++ sep :: b ∧ sep ∉ b := by
  have hreverse : t = a ++ sep :: b ↔ t.reverse = b.reverse ++ sep :: a.reverse := by
    rw [← List.reverse_inj]
    simp
  have hmem : sep ∈ b ↔ sep ∈ b.reverse := List.mem_reverse.symm
  rw [hreverse, hmem, ← dropWhile_ne_eq_cons_iff]
  unfold cutLast?
  split
  · next hdrop =>
    rw [hdrop]
    simp
  · next c before hdrop =>
    rw [hdrop]
    simp [List.reverse_eq_iff, and_comm]

theorem identityTexts?_eq_some_iff {name email : Text} :
    identityTexts? t = some (name, email) ↔
      t = name ++ '<' :: email ++ ['>'] ∧ '<' ∉ name ∧ '\n' ∉ t := by
  have hlast : t.getLast? = some '>' ↔ t = t.dropLast ++ ['>'] := by
    rw [List.getLast?_eq_some_iff]
    constructor
    · rintro ⟨u, rfl⟩
      rw [List.dropLast_concat]
    · intro h
      exact ⟨_, h⟩
  have hcut : identityTexts? t = some (name, email) ↔
      (t.getLast? = some '>' ∧ '\n' ∉ t) ∧ t.dropLast = name ++ '<' :: email ∧ '<' ∉ name := by
    rw [identityTexts?, Option.ite_none_right_eq_some, ← dropWhile_ne_eq_cons_iff]
    refine and_congr_right fun _ => ?_
    split
    · next hdrop =>
      rw [hdrop]
      simp
    · next c rest hdrop =>
      rw [hdrop]
      simp
  rw [hcut, hlast]
  constructor
  · rintro ⟨⟨ht, hline⟩, hsplit, hname⟩
    rw [hsplit] at ht
    exact ⟨ht, hname, hline⟩
  · rintro ⟨rfl, hname, hline⟩
    rw [List.dropLast_concat]
    exact ⟨⟨rfl, hline⟩, rfl, hname⟩

/-- **The texts that have a layout.** -/
theorem Layout.ofText?_eq_some_iff {l : Layout} :
    ofText? t = some l ↔
      t = l.name ++ '<' :: l.email ++ '>' :: ' ' :: l.time ++ ' ' :: l.offset ∧
        ('<' ∉ l.name ∧ '\n' ∉ l.name ∧ '\n' ∉ l.email) ∧
        (∃ digits n, SpellsTime l.time digits n) ∧ ∃ o, Offset.Spells l.offset o := by
  have hoffset : ∀ u, (Offset.minutes? (Offset.splitSign u).2).isSome ↔
      ∃ o, Offset.Spells u o := fun u => by
    simp [Offset.spells_iff, Option.isSome_iff_exists]
  obtain ⟨name, email, time, offset⟩ := l
  simp only [ofText?, Option.bind_eq_bind, Option.bind_eq_some_iff, Prod.exists,
    cutLast?_eq_some_iff, identityTexts?_eq_some_iff, Option.ite_none_right_eq_some,
    Option.some.injEq, Layout.mk.injEq, isSome_timeDigits?_iff, hoffset]
  constructor
  · rintro ⟨rest, offset, ⟨rfl, -⟩, who, time, ⟨rfl, -⟩, name, email, ⟨rfl, hopen, hline⟩,
      ⟨htime, hoffset⟩, rfl, rfl, rfl, rfl⟩
    refine ⟨by simp, ⟨hopen, ?_, ?_⟩, htime, hoffset⟩
    · exact fun hmem => hline (by simp [hmem])
    · exact fun hmem => hline (by simp [hmem])
  · rintro ⟨rfl, ⟨hopen, hname, hemail⟩, ⟨digits, n, htime⟩, o, hoffset⟩
    -- the last two spaces are those in front of the numbers, for there is none in them
    have htime' : ' ' ∉ time := not_mem_of_forall htime.isMark (by decide)
    have hoffset' : ' ' ∉ offset := not_mem_of_forall hoffset.isMark (by decide)
    refine ⟨name ++ '<' :: email ++ '>' :: ' ' :: time, offset, ⟨rfl, hoffset'⟩,
      name ++ '<' :: email ++ ['>'], time, ⟨by simp, htime'⟩, name, email,
      ⟨rfl, hopen, ?_⟩, ⟨⟨digits, n, htime⟩, o, hoffset⟩, rfl, rfl, rfl, rfl⟩
    simp [hname, hemail]

end Layout

/-! ## Reading -/

section Reading

variable {line t : Text} {s : Signature}

/-- A signature is made of texts that give its name and email, and of its numbers. -/
theorem ofParts_text_eq_ok_iff {name email : Text} {n o : Int} :
    ofParts (.text name) (.text email) n o = .ok s ↔
      name.strip = s.name.val ∧ email.strip = s.email.val ∧ n = s.time ∧ o = s.offset := by
  obtain ⟨sname, semail, time, offset⟩ := s
  simp only [ofParts, Except.bind_eq_ok_iff, Except.mapError_eq_ok_iff,
    Identity.ofDatum_text_eq_ok_iff]
  constructor
  · rintro ⟨i, hi, j, hj, h⟩
    cases h
    exact ⟨hi, hj, rfl, rfl⟩
  · rintro ⟨hi, hj, rfl, rfl⟩
    exact ⟨sname, hi, semail, hj, rfl⟩

theorem numbers_of_ofParts {name email : Datum} {n o : Int}
    (h : ofParts name email n o = .ok s) : s.time = n ∧ s.offset = o := by
  obtain ⟨i, -, h⟩ := Except.bind_eq_ok_iff.mp h
  obtain ⟨j, -, h⟩ := Except.bind_eq_ok_iff.mp h
  cases h
  exact ⟨rfl, rfl⟩

/-- Texts that make no signature are refused because of the name or the email. -/
theorem ofParts_eq_error {name email : Datum} {n o : Int} {e : Failure}
    (h : ofParts name email n o = .error e) : ∃ cause, e = .identity cause := by
  rcases Except.bind_eq_error_iff.mp h with h | ⟨i, -, h⟩
  · obtain ⟨cause, -, rfl⟩ := Except.mapError_eq_error_iff.mp h
    exact ⟨cause, rfl⟩
  rcases Except.bind_eq_error_iff.mp h with h | ⟨j, -, h⟩
  · obtain ⟨cause, -, rfl⟩ := Except.mapError_eq_error_iff.mp h
    exact ⟨cause, rfl⟩
  · cases h

theorem readText_of_layout {l : Layout} {digits : Nat} {n o : Int}
    (hl : Layout.ofText? line.chomp = some l) (htime : SpellsTime l.time digits n)
    (hoffset : Offset.Spells l.offset o) :
    readText line =
      if digits ≤ Numeral.maxDigits then ofParts (.text l.name) (.text l.email) n o
      else .error (.misuse .invalidValue) := by
  unfold readText
  dsimp only
  rw [hl]
  dsimp only
  rw [htime.timeValue_eq, hoffset.read_eq]
  split
  · rfl
  · rfl

/-- **The lines that are read** are those that spell a signature. -/
theorem readText_eq_ok_iff : readText line = .ok s ↔ Spells line.chomp s := by
  constructor
  · intro h
    cases hl : Layout.ofText? line.chomp with
    | none =>
      rw [readText, hl] at h
      cases h
    | some l =>
      obtain ⟨htext, ⟨-, hname, hemail⟩, ⟨digits, n, htime⟩, o, hoffset⟩ :=
        Layout.ofText?_eq_some_iff.mp hl
      rw [readText_of_layout hl htime hoffset] at h
      split at h
      · next hdigits =>
        obtain ⟨hnamed, hmailed, rfl, rfl⟩ := ofParts_text_eq_ok_iff.mp h
        rw [htext]
        exact .mk (Identity.any_isForbidden_of_strip hnamed hname) hnamed
          (Identity.any_isForbidden_of_strip hmailed hemail) hmailed htime hdigits hoffset
      · cases h
  · intro h
    generalize hchomp : line.chomp = t at h
    cases h with
    | @mk name email time offset s digits hname hnamed hemail hmailed htime hdigits hoffset =>
      obtain ⟨hopen, -, hline, -⟩ := Identity.any_isForbidden_eq_false_iff.mp hname
      obtain ⟨-, -, hline', -⟩ := Identity.any_isForbidden_eq_false_iff.mp hemail
      have hl : Layout.ofText? line.chomp = some ⟨name, email, time, offset⟩ :=
        Layout.ofText?_eq_some_iff.mpr
          ⟨hchomp, ⟨hopen, hline, hline'⟩, ⟨digits, _, htime⟩, _, hoffset⟩
      rw [readText_of_layout hl htime hoffset, if_pos hdigits]
      exact ofParts_text_eq_ok_iff.mpr ⟨hnamed, hmailed, rfl, rfl⟩

-- a line end inside the name, blanks around the email, a digit of another script and
-- more minutes than an hour has
example : (readText "A\rB< a > -١ 0160\r\n".toList).map (fun s => (s.name.val, s.time, s.offset)) =
    .ok ("A\rB".toList, -1, 120) := by decide

theorem Spells.natAbs_lt (h : Spells t s) :
    s.time.natAbs < 10 ^ Numeral.maxDigits ∧ s.offset.natAbs < 6040 := by
  cases h with
  | mk _ _ _ _ htime hdigits hoffset =>
    exact ⟨Nat.lt_of_lt_of_le htime.natAbs_lt (Nat.pow_le_pow_right (by decide) hdigits),
      hoffset.natAbs_lt⟩

/-- **The lines that fail for a reason outside the domain** are those with a timestamp
of too many digits. -/
theorem readText_eq_misuse_iff {cause : Misuse} :
    readText line = .error (.misuse cause) ↔ Overlong line.chomp ∧ cause = .invalidValue := by
  constructor
  · intro h
    cases hl : Layout.ofText? line.chomp with
    | none =>
      rw [readText, hl] at h
      cases h
    | some l =>
      obtain ⟨htext, ⟨hopen, hname, hemail⟩, ⟨digits, n, htime⟩, o, hoffset⟩ :=
        Layout.ofText?_eq_some_iff.mp hl
      rw [readText_of_layout hl htime hoffset] at h
      split at h
      · obtain ⟨cause, heq⟩ := ofParts_eq_error h
        cases heq
      · next hdigits =>
        cases h
        rw [htext]
        exact ⟨.mk hopen hname hemail htime (Nat.lt_of_not_le hdigits) hoffset, rfl⟩
  · rintro ⟨h, rfl⟩
    generalize hchomp : line.chomp = t at h
    cases h with
    | @mk name email time offset digits n o hopen hname hemail htime hdigits hoffset =>
      have hl : Layout.ofText? line.chomp = some ⟨name, email, time, offset⟩ :=
        Layout.ofText?_eq_some_iff.mpr
          ⟨hchomp, ⟨hopen, hname, hemail⟩, ⟨digits, n, htime⟩, o, hoffset⟩
      rw [readText_of_layout hl htime hoffset, if_neg (Nat.not_le_of_lt hdigits)]

theorem read_encode (t : Text) : read (.bytes (Utf8.encode t)) = read (.text t) := by
  have hdecode : Utf8.decode (Utf8.encode t) = .ok t := Utf8.decode_eq_ok_iff.mpr rfl
  simp only [read, hdecode]

/-- **What is read is a line**, as text or in bytes, that spells a signature. -/
theorem read_eq_ok_iff {d : Datum} :
    read d = .ok s ↔
      ∃ line, (d = .text line ∨ d = .bytes (Utf8.encode line)) ∧ Spells line.chomp s := by
  constructor
  · intro h
    cases d with
    | text line => exact ⟨line, .inl rfl, readText_eq_ok_iff.mp h⟩
    | bytes bytes =>
      cases hdecode : Utf8.decode bytes with
      | ok line =>
        simp only [read, hdecode] at h
        exact ⟨line, .inr (congrArg Datum.bytes (Utf8.decode_eq_ok_iff.mp hdecode)),
          readText_eq_ok_iff.mp h⟩
      | error cause =>
        simp only [read, hdecode] at h
        cases h
    | _ => cases h
  · rintro ⟨line, rfl | rfl, h⟩
    · exact readText_eq_ok_iff.mpr h
    · rw [read_encode]
      exact readText_eq_ok_iff.mpr h

/-- **A line is read exactly if it spells a signature**, the line ends after it aside, and
then as that signature. Every other line fails. -/
theorem read_line_iff_spells (line : Text) :
    (∀ s, read (.text line) = .ok s ↔ Spells line.chomp s) ∧
      ((∃ e, read (.text line) = .error e) ↔ ∀ s, ¬ Spells line.chomp s) := by
  have hiff : ∀ s, read (.text line) = .ok s ↔ Spells line.chomp s :=
    fun s => readText_eq_ok_iff
  refine ⟨hiff, ?_⟩
  simp only [← hiff]
  cases read (.text line) with
  | error e => simp
  | ok s => simp

end Reading

end Signature

end Attribution
