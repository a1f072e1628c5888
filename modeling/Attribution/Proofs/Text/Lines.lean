import Attribution.Text.Basic
import Mathlib

/-!
# The lines of a text

- `Text.splitOn_append`: the pieces of two texts with a separator between them are
  the pieces of both.
- `Text.splitOn_eq_singleton`: a text without the separator is its only piece.
- `Text.not_mem_of_mem_splitOn`: no piece holds the separator.
- `Text.subset_of_mem_splitOn`: a piece is made of characters of the text.
-/

namespace Attribution.Text

/-- A separator comes between the pieces before it and those after it. -/
theorem splitOn_append (sep : Char) (a b : Text) :
    splitOn sep (a ++ sep :: b) = splitOn sep a ++ splitOn sep b := by
  induction a with
  | nil =>
    show splitOn sep (sep :: b) = [] :: splitOn sep b
    rw [splitOn, if_pos rfl]
  | cons c rest ih =>
    rw [List.cons_append, splitOn, splitOn]
    split
    · rw [ih]
      rfl
    · rw [ih]
      cases hrest : splitOn sep rest with
      | nil => exact absurd hrest (splitOn_ne_nil sep rest)
      | cons piece pieces => rfl

/-- A text without the separator is its only piece. -/
theorem splitOn_eq_singleton {sep : Char} {t : Text} (h : sep ∉ t) :
    splitOn sep t = [t] := by
  induction t with
  | nil => rfl
  | cons c rest ih =>
    have hc : c ≠ sep := fun heq => h (heq ▸ List.mem_cons_self ..)
    rw [splitOn, if_neg hc, ih fun hmem => h (List.mem_cons_of_mem c hmem)]

theorem not_mem_of_mem_splitOn {sep : Char} {t piece : Text}
    (h : piece ∈ splitOn sep t) : sep ∉ piece := by
  induction t generalizing piece with
  | nil =>
    rw [List.mem_singleton.mp h]
    exact List.not_mem_nil
  | cons c rest ih =>
    rw [splitOn] at h
    split at h
    · rcases List.mem_cons.mp h with rfl | h
      · exact List.not_mem_nil
      · exact ih h
    · next hc =>
      cases hrest : splitOn sep rest with
      | nil => exact absurd hrest (splitOn_ne_nil sep rest)
      | cons first pieces =>
        rw [hrest] at h ih
        rcases List.mem_cons.mp h with rfl | h
        · rw [List.mem_cons, not_or]
          exact ⟨fun heq => hc heq.symm, ih (List.mem_cons_self ..)⟩
        · exact ih (List.mem_cons_of_mem first h)

theorem subset_of_mem_splitOn {sep : Char} {t piece : Text} (h : piece ∈ splitOn sep t) :
    piece ⊆ t := by
  induction t generalizing piece with
  | nil =>
    rw [List.mem_singleton.mp h]
    exact List.nil_subset _
  | cons c rest ih =>
    rw [splitOn] at h
    split at h
    · rcases List.mem_cons.mp h with rfl | h
      · exact List.nil_subset _
      · exact List.subset_cons_of_subset c (ih h)
    · cases hrest : splitOn sep rest with
      | nil => exact absurd hrest (splitOn_ne_nil sep rest)
      | cons first pieces =>
        rw [hrest] at h ih
        rcases List.mem_cons.mp h with rfl | h
        · exact List.cons_subset_cons c (ih (List.mem_cons_self ..))
        · exact List.subset_cons_of_subset c (ih (List.mem_cons_of_mem first h))

end Attribution.Text
