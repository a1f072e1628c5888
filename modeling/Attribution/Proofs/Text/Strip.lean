import Attribution.Text.Trim
import Mathlib

/-!
# Stripped texts

What stripping keeps and what it leaves alone.

- `Text.mem_of_mem_strip`, `Text.mem_strip_of_mem`: only blanks are lost.
- `Text.strip_eq_self_iff`: a text is stripped when no blank stands at its ends.
- `Text.head?_of_head?_strip`: stripping a text that starts with no blank keeps
  its first character.
- `Text.strip_cons`, `Text.strip_append_singleton`: a blank at an end makes no
  difference.
- `Text.strip_between`: neither do any number of blanks.
- `Text.exists_between_strip`, `Text.exists_append_chomp`: what stripping and chomping
  cut off.
-/

namespace Attribution

section Lemmas

variable {α : Type} {p : α → Bool}

theorem trim_sublist (xs : List α) : (trim p xs).Sublist xs := by
  have hend : ∀ ys : List α, (trimEnd p ys).Sublist ys := fun ys => by
    have := (List.dropWhile_sublist p (l := ys.reverse)).reverse
    rwa [List.reverse_reverse] at this
  exact (hend _).trans (List.dropWhile_sublist p)

theorem mem_trim_of_mem {xs : List α} {x : α} (hmem : x ∈ xs) (hx : p x = false) :
    x ∈ trim p xs := by
  have hstart : ∀ ys : List α, x ∈ ys → x ∈ ys.dropWhile p := by
    intro ys hys
    rw [← List.takeWhile_append_dropWhile (p := p) (l := ys)] at hys
    rcases List.mem_append.mp hys with htake | hdrop
    · have hpos := List.mem_takeWhile_imp htake
      rw [hx] at hpos
      cases hpos
    · exact hdrop
  show x ∈ ((xs.dropWhile p).reverse.dropWhile p).reverse
  exact List.mem_reverse.mpr (hstart _ (List.mem_reverse.mpr (hstart _ hmem)))

/-- A list is trimmed when no element of the class stands at its ends. -/
theorem trim_eq_self_iff {xs : List α} :
    trim p xs = xs ↔
      (∀ x ∈ xs.head?, p x = false) ∧ ∀ x ∈ xs.getLast?, p x = false := by
  constructor
  · intro h
    constructor
    · intro x hx
      rw [← h] at hx
      exact head?_trimStart (head?_trimEnd hx)
    · intro x hx
      rw [← h] at hx
      exact getLast?_trimEnd hx
  · rintro ⟨hhead, hlast⟩
    show trimEnd p (trimStart p xs) = xs
    rw [trimStart_eq_self hhead]
    exact trimEnd_eq_self hlast

theorem trim_cons {x : α} (h : p x = true) (xs : List α) :
    trim p (x :: xs) = trim p xs := by
  unfold trim trimStart
  rw [List.dropWhile_cons_of_pos h]

theorem trim_append_singleton {x : α} (h : p x = true) (xs : List α) :
    trim p (xs ++ [x]) = trim p xs := by
  have hend : ∀ ys : List α, trimEnd p (ys ++ [x]) = trimEnd p ys := fun ys => by
    unfold trimEnd
    rw [List.reverse_append, List.reverse_singleton, List.singleton_append,
      List.dropWhile_cons_of_pos h]
  unfold trim trimStart
  rw [List.dropWhile_append]
  split
  · next hempty =>
    rw [List.isEmpty_iff.mp hempty, List.dropWhile_cons_of_pos h]
    rfl
  · exact hend _

theorem trim_append_left {before : List α} (h : ∀ x ∈ before, p x = true) (xs : List α) :
    trim p (before ++ xs) = trim p xs := by
  induction before with
  | nil => rfl
  | cons x rest ih =>
    obtain ⟨hx, hrest⟩ := List.forall_mem_cons.mp h
    rw [List.cons_append, trim_cons hx, ih hrest]

theorem trim_append_right {after : List α} (h : ∀ x ∈ after, p x = true) (xs : List α) :
    trim p (xs ++ after) = trim p xs := by
  induction after generalizing xs with
  | nil => rw [List.append_nil]
  | cons x rest ih =>
    obtain ⟨hx, hrest⟩ := List.forall_mem_cons.mp h
    rw [List.append_cons, ih hrest, trim_append_singleton hx]

/-- What stands before a list without its start is of the class. -/
theorem exists_append_trimStart (p : α → Bool) (xs : List α) :
    ∃ before, xs = before ++ trimStart p xs ∧ ∀ x ∈ before, p x = true :=
  ⟨xs.takeWhile p, List.takeWhile_append_dropWhile.symm, fun _ hx => List.mem_takeWhile_imp hx⟩

theorem exists_trimEnd_append (p : α → Bool) (xs : List α) :
    ∃ after, xs = trimEnd p xs ++ after ∧ ∀ x ∈ after, p x = true := by
  refine ⟨(xs.reverse.takeWhile p).reverse, ?_, fun x hx => ?_⟩
  · rw [trimEnd, ← List.reverse_append, List.takeWhile_append_dropWhile, List.reverse_reverse]
  · exact List.mem_takeWhile_imp (List.mem_reverse.mp hx)

end Lemmas

namespace Text

theorem mem_of_mem_strip {c : Char} {t : Text} (h : c ∈ t.strip) : c ∈ t :=
  (trim_sublist t).subset h

/-- A character of a text that is not blank is one of the stripped text. -/
theorem mem_strip_of_mem {c : Char} {t : Text} (h : c ∈ t) (hc : isBlank c = false) :
    c ∈ t.strip :=
  mem_trim_of_mem h hc

theorem strip_eq_self_iff {t : Text} :
    t.strip = t ↔
      (∀ c ∈ t.head?, isBlank c = false) ∧ ∀ c ∈ t.getLast?, isBlank c = false :=
  trim_eq_self_iff

theorem strip_cons {c : Char} (h : isBlank c = true) (t : Text) :
    strip (c :: t) = t.strip := trim_cons h t

theorem strip_append_singleton {c : Char} (h : isBlank c = true) (t : Text) :
    strip (t ++ [c]) = t.strip := trim_append_singleton h t

/-- Stripping a text that starts with no blank keeps its first character. -/
theorem head?_of_head?_strip {t : Text} {c : Char}
    (h : ∀ c ∈ t.head?, isBlank c = false) (hc : t.strip.head? = some c) :
    t.head? = some c := by
  have hstart : trimStart isBlank t = t := trimStart_eq_self h
  have hc' : (trimEnd isBlank (trimStart isBlank t)).head? = some c := hc
  rw [hstart] at hc'
  exact head?_trimEnd hc'

theorem strip_between {before after : Text} (hbefore : ∀ c ∈ before, isBlank c = true)
    (hafter : ∀ c ∈ after, isBlank c = true) (t : Text) :
    strip (before ++ t ++ after) = t.strip :=
  (trim_append_right hafter _).trans (trim_append_left hbefore t)

/-- A text is what is left of it when it is stripped, between blanks. -/
theorem exists_between_strip (t : Text) :
    ∃ before after, t = before ++ t.strip ++ after ∧ (∀ c ∈ before, isBlank c = true) ∧
      ∀ c ∈ after, isBlank c = true := by
  obtain ⟨before, hstart, hbefore⟩ := exists_append_trimStart isBlank t
  obtain ⟨after, hend, hafter⟩ := exists_trimEnd_append isBlank (trimStart isBlank t)
  refine ⟨before, after, ?_, hbefore, hafter⟩
  rw [List.append_assoc]
  exact hstart.trans (congrArg (before ++ ·) hend)

/-- A text is what is left of it without the line ends after it, and these. -/
theorem exists_append_chomp (t : Text) :
    ∃ after, t = t.chomp ++ after ∧ ∀ c ∈ after, c = '\r' ∨ c = '\n' := by
  obtain ⟨after, hend, hafter⟩ := exists_trimEnd_append (fun c => c == '\r' || c == '\n') t
  exact ⟨after, hend, fun c hc => by simpa using hafter c hc⟩

end Text

end Attribution
