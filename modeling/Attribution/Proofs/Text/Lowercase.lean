import Attribution.Proofs.Text.Utf8
import Attribution.Text.Lowercase

/-!
# Lower-case forms

The lower-case form of a text has no capitals left, and it is the same for all spellings
that differ in the case of ASCII letters. Both hold although a capital sigma is lowered by
what stands around it.

- `CaseRun.avoids`: a run of capitals whose lower-case forms are no capitals of another.
- `Lowercase.char_of_mem_char`: a lower-case form of a character is one of its own.
- `Text.lower_lower`: lower-casing twice is lower-casing once.
- `Text.AsciiAlike`: texts that differ in the case of ASCII letters.
- `Text.AsciiAlike.lower_eq`: they have one lower-case form.
-/

namespace Attribution

/-! ## Forms that are no capitals -/

namespace CaseRun

/-- The lower-case form of the first capital of a run. -/
def firstForm (run : CaseRun) : Nat := (run.first + run.shift).toNat

/-- The lower-case form of the last capital of a run. -/
def lastForm (run : CaseRun) : Nat := (run.last + run.shift).toNat

/-- Whether the lower-case forms of a run are characters other than the dotted capital I. -/
def hasForms (run : CaseRun) : Bool :=
  decide (0 ≤ run.first + run.shift) && Nat.blt run.lastForm 0x110000 &&
    (Nat.blt run.lastForm 0xD800 || Nat.blt 0xDFFF run.firstForm) &&
    (Nat.blt run.lastForm 0x130 || Nat.blt 0x130 run.firstForm)

/-- Whether the lower-case forms of a run are no capitals of another: they come before these
or after them, or alternate with them. -/
def avoids (run other : CaseRun) : Bool :=
  Nat.blt run.lastForm other.first || Nat.blt other.last run.firstForm ||
    (run.first == run.last || run.step % other.step == 0) &&
      (run.firstForm - other.first) % other.step != 0

end CaseRun

namespace Lowercase

open CaseTable

section Runs

variable {run other : CaseRun} {c n : Nat}

theorem runImage?_eq_some_iff :
    runImage? run c = some n ↔
      (run.first ≤ c ∧ c ≤ run.last ∧ (c - run.first) % run.step = 0) ∧
        (c + run.shift).toNat = n := by
  rw [runImage?]
  split
  · next h => simp [h]
  · next h => simp [h]

/-- A lower-case form stands as far from the first one as its capital from the first. -/
theorem eq_firstForm_add (hforms : run.hasForms = true) (h : runImage? run c = some n) :
    n = run.firstForm + (c - run.first) ∧ n ≤ run.lastForm := by
  obtain ⟨⟨hfirst, hlast, -⟩, rfl⟩ := runImage?_eq_some_iff.mp h
  simp only [CaseRun.hasForms, Bool.and_eq_true, decide_eq_true_eq] at hforms
  rw [CaseRun.firstForm, CaseRun.lastForm]
  omega

theorem toNat_of_runImage? (hforms : run.hasForms = true) (h : runImage? run c = some n) :
    (Char.ofNat n).toNat = n ∧ n ≠ 0x130 := by
  obtain ⟨heq, hle⟩ := eq_firstForm_add hforms h
  simp only [CaseRun.hasForms, Bool.and_eq_true, Bool.or_eq_true, Nat.blt_eq] at hforms
  exact ⟨Utf8.toNat_ofNat (by omega), by omega⟩

/-- The lower-case forms of a run that avoids another are no capitals of that one. -/
theorem runImage?_of_avoids (hforms : run.hasForms = true) (havoids : run.avoids other = true)
    (h : runImage? run c = some n) : runImage? other n = none := by
  obtain ⟨heq, hle⟩ := eq_firstForm_add hforms h
  obtain ⟨⟨hfirst, hlast, hstep⟩, -⟩ := runImage?_eq_some_iff.mp h
  refine if_neg fun ⟨hfirst', hlast', hstep'⟩ => ?_
  simp only [CaseRun.avoids, Bool.or_eq_true, Bool.and_eq_true, Nat.blt_eq, beq_iff_eq,
    bne_iff_ne] at havoids
  rcases havoids with (hbefore | hafter) | ⟨hsteps, hbetween⟩
  · omega
  · omega
  -- both steps are passed over from the first form, which is no capital, to this one
  · have hdvd : other.step ∣ c - run.first := by
      rcases hsteps with hone | hsteps
      · exact ⟨0, by omega⟩
      · exact (Nat.dvd_of_mod_eq_zero hsteps).trans (Nat.dvd_of_mod_eq_zero hstep)
    have hne : run.firstForm - other.first ≠ 0 := fun h0 => hbetween (by rw [h0, Nat.zero_mod])
    have hsplit : n - other.first = run.firstForm - other.first + (c - run.first) := by omega
    rw [hsplit] at hstep'
    exact hbetween (Nat.mod_eq_zero_of_dvd
      ((Nat.dvd_add_left hdvd).mp (Nat.dvd_of_mod_eq_zero hstep')))

end Runs

theorem hasForms_of_mem : ∀ run ∈ lowercaseRuns, run.hasForms = true :=
  List.all_eq_true.mp (by decide +kernel)

theorem avoids_of_mem :
    ∀ run ∈ lowercaseRuns, ∀ other ∈ lowercaseRuns, run.avoids other = true := by
  have hall : (lowercaseRuns.all fun run => lowercaseRuns.all run.avoids) = true := by
    decide +kernel
  exact fun run hrun => List.all_eq_true.mp (List.all_eq_true.mp hall run hrun)

/-- A character that is not among the capitals is its own lower-case form. -/
theorem char_eq_self {c : Char} (hdotted : c.toNat ≠ 0x130)
    (h : (lowercaseRuns.all fun run => (runImage? run c.toNat).isNone) = true) : char c = [c] := by
  have hnone : lowercaseRuns.findSome? (runImage? · c.toNat) = none :=
    List.findSome?_eq_none_iff.mpr fun run hrun =>
      Option.isNone_iff_eq_none.mp (List.all_eq_true.mp h run hrun)
  rw [char, if_neg hdotted, hnone]

/-- **A lower-case form of a character is one of its own.** -/
theorem char_of_mem_char {c d : Char} (h : d ∈ char c) : char d = [d] := by
  unfold char at h
  split at h
  -- the dotted capital I, whose dot becomes a mark
  · rcases List.mem_pair.mp h with rfl | rfl
    · exact char_eq_self (by decide) (by decide +kernel)
    · exact char_eq_self (by decide) (by decide +kernel)
  · next hdotted =>
    split at h
    · next n hn =>
      obtain rfl := List.mem_singleton.mp h
      obtain ⟨run, hrun, hform⟩ := List.exists_of_findSome?_eq_some hn
      obtain ⟨hvalid, hne⟩ := toNat_of_runImage? (hasForms_of_mem run hrun) hform
      refine char_eq_self (by rwa [hvalid]) (List.all_eq_true.mpr fun other hother => ?_)
      rw [hvalid, runImage?_of_avoids (hasForms_of_mem run hrun)
        (avoids_of_mem run hrun other hother) hform]
      rfl
    · next hnone =>
      obtain rfl := List.mem_singleton.mp h
      rw [char, if_neg hdotted, hnone]

/-! ## Lower-case texts -/

theorem ne_sigma_of_char {d : Char} (h : char d = [d]) : d ≠ 'Σ' := by
  rintro rfl
  exact absurd h (by decide)

theorem char_sigma (afterCased : Bool) (rest : Text) :
    char (sigma afterCased rest) = [sigma afterCased rest] := by
  rw [sigma]
  split
  · exact char_eq_self (by decide) (by decide +kernel)
  · exact char_eq_self (by decide) (by decide +kernel)

/-- A lower-case text is made of characters that are their own lower-case forms. -/
theorem char_of_mem_lowerAfter {afterCased : Bool} {t : Text} {d : Char}
    (h : d ∈ lowerAfter afterCased t) : char d = [d] := by
  induction t generalizing afterCased with
  | nil => exact absurd h List.not_mem_nil
  | cons c rest ih =>
    rw [lowerAfter, List.mem_append] at h
    rcases h with h | h
    · split at h
      · rw [List.mem_singleton.mp h]
        exact char_sigma ..
      · exact char_of_mem_char h
    · exact ih h

theorem lowerAfter_eq_self {afterCased : Bool} {t : Text} (h : ∀ d ∈ t, char d = [d]) :
    lowerAfter afterCased t = t := by
  induction t generalizing afterCased with
  | nil => rfl
  | cons c rest ih =>
    obtain ⟨hc, hrest⟩ := List.forall_mem_cons.mp h
    rw [lowerAfter, if_neg (ne_sigma_of_char hc), hc, ih hrest]
    rfl

end Lowercase

/-- **Lower-casing twice is lower-casing once.** -/
theorem Text.lower_lower (t : Text) : t.lower.lower = t.lower :=
  Lowercase.lowerAfter_eq_self fun _ h => Lowercase.char_of_mem_lowerAfter h

/-! ## ASCII letters -/

namespace Lowercase

theorem toLower_eq_self_or (c : Char) : c.toLower = c ∨ ∃ k < 26, c = Char.ofNat (65 + k) := by
  by_cases hupper : 65 ≤ c.toNat ∧ c.toNat ≤ 90
  · refine .inr ⟨c.toNat - 65, by omega, ?_⟩
    rw [Nat.add_sub_cancel' hupper.1, Char.ofNat_toNat]
  · exact .inl (dif_neg hupper)

/-- An ASCII capital and its small letter are lowered alike, and looked at alike where they
stand beside a capital sigma, which is neither of them. -/
theorem ascii_alike (c : Char) :
    char c.toLower = char c ∧ isIgnorable c.toLower = isIgnorable c ∧
      isCased c.toLower = isCased c ∧ (c.toLower = 'Σ' ↔ c = 'Σ') := by
  rcases toLower_eq_self_or c with hself | ⟨k, hk, rfl⟩
  · rw [hself]
    exact ⟨rfl, rfl, rfl, .rfl⟩
  · have hall : ∀ k < 26, let c := Char.ofNat (65 + k)
        c.toLower ∈ char c ∧ char c = [c.toLower] ∧ isIgnorable c.toLower = isIgnorable c ∧
          isCased c.toLower = isCased c ∧ c.toLower ≠ 'Σ' ∧ c ≠ 'Σ' := by
      decide
    obtain ⟨hmem, hform, hignorable, hcased, hsmall, hcapital⟩ := hall k hk
    exact ⟨(char_of_mem_char hmem).trans hform.symm, hignorable, hcased,
      iff_of_false hsmall hcapital⟩

/-- Whether a cased character comes next is the same for small letters. -/
theorem startsCased_map_toLower (t : Text) : startsCased (t.map Char.toLower) = startsCased t := by
  unfold startsCased
  induction t with
  | nil => rfl
  | cons c rest ih =>
    obtain ⟨-, hignorable, hcased, -⟩ := ascii_alike c
    rw [List.map_cons, List.dropWhile_cons, List.dropWhile_cons, hignorable]
    split
    · exact ih
    · exact hcased

/-- A text is lowered to what its ASCII letters are lowered to when they are small. -/
theorem lowerAfter_map_toLower (afterCased : Bool) (t : Text) :
    lowerAfter afterCased (t.map Char.toLower) = lowerAfter afterCased t := by
  induction t generalizing afterCased with
  | nil => rfl
  | cons c rest ih =>
    obtain ⟨hform, hignorable, hcased, hsigma⟩ := ascii_alike c
    rw [List.map_cons, lowerAfter, lowerAfter, ih, hform, hignorable, hcased, sigma, sigma,
      startsCased_map_toLower]
    simp only [hsigma]

end Lowercase

/-- Texts that differ at most in the case of ASCII letters: they are the same once these are
small in both. -/
def Text.AsciiAlike (t u : Text) : Prop := t.map Char.toLower = u.map Char.toLower

instance (t u : Text) : Decidable (t.AsciiAlike u) := inferInstanceAs (Decidable (_ = _))

/-- **Texts that differ in the case of ASCII letters have one lower-case form**, whatever
other characters they hold. -/
theorem Text.AsciiAlike.lower_eq {t u : Text} (h : t.AsciiAlike u) : t.lower = u.lower := by
  calc t.lower
    _ = Text.lower (t.map Char.toLower) := (Lowercase.lowerAfter_map_toLower false t).symm
    _ = Text.lower (u.map Char.toLower) := by rw [h]
    _ = u.lower := Lowercase.lowerAfter_map_toLower false u

/-- Texts that differ in the case of ASCII letters hold the same other characters, such as NUL. -/
theorem Text.AsciiAlike.nul_mem_iff {t u : Text} (h : t.AsciiAlike u) :
    '\x00' ∈ t ↔ '\x00' ∈ u := by
  have hnul : ∀ c : Char, c.toLower = '\x00' ↔ c = '\x00' := by
    intro c
    rcases Lowercase.toLower_eq_self_or c with hself | ⟨k, hk, rfl⟩
    · rw [hself]
    · have hall : ∀ k < 26, (Char.ofNat (65 + k)).toLower ≠ '\x00' ∧
          Char.ofNat (65 + k) ≠ '\x00' := by decide
      exact iff_of_false (hall k hk).1 (hall k hk).2
  have hmem : ∀ t : Text, '\x00' ∈ t.map Char.toLower ↔ '\x00' ∈ t := fun t => by
    simp [hnul]
  rw [← hmem t, h, hmem u]

/-- A capital sigma is lowered by whether a letter comes next, and not by the letter's case. -/
example :
    Text.lower "aΣ@x".toList = "aς@x".toList ∧ Text.lower "AΣB".toList = "aσb".toList ∧
      Text.lower "aΣb".toList = "aσb".toList := by
  decide +kernel

end Attribution
