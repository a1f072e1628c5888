import Attribution.Text.Basic

/-!
# Trimming

Which characters count as blank, and cutting them from the ends of a text.

- `trimStart`, `trimEnd`, `trim`: drop the elements of a class from one or both ends of a list.
- `Text.isBlank`, `Bytes.isBlank`: the blank characters of text and, fewer, of byte strings.
- `Text.strip`, `Bytes.strip`: trimming of blanks.
- `trim_trim`: trimming twice is trimming once.
-/

namespace Attribution

/-! ## Trimming of any class -/

/-- Drops the longest run of elements satisfying `p` from the start. -/
def trimStart {α : Type} (p : α → Bool) (xs : List α) : List α := xs.dropWhile p

/-- Drops the longest run of elements satisfying `p` from the end. -/
def trimEnd {α : Type} (p : α → Bool) (xs : List α) : List α :=
  (xs.reverse.dropWhile p).reverse

/-- Drops the elements satisfying `p` from both ends. -/
def trim {α : Type} (p : α → Bool) (xs : List α) : List α := trimEnd p (trimStart p xs)

section Lemmas

variable {α : Type} {p : α → Bool}

/-- A list is trimmed at its start when its first element, if any, is not in the class. -/
theorem trimStart_eq_self {xs : List α} (h : ∀ x, xs.head? = some x → p x = false) :
    trimStart p xs = xs := by
  cases xs with
  | nil => rfl
  | cons x rest => simp [trimStart, h x rfl]

/-- A list is trimmed at its end when its last element, if any, is not in the class. -/
theorem trimEnd_eq_self {xs : List α} (h : ∀ x, xs.getLast? = some x → p x = false) :
    trimEnd p xs = xs := by
  have := trimStart_eq_self (show ∀ x, xs.reverse.head? = some x → p x = false by simpa using h)
  simpa [trimEnd, trimStart] using congrArg List.reverse this

theorem head?_trimStart {xs : List α} {x : α} (h : (trimStart p xs).head? = some x) :
    p x = false := by
  induction xs with
  | nil => simp [trimStart] at h
  | cons y rest ih =>
    by_cases hy : p y
    · exact ih (by simpa [trimStart, hy] using h)
    · simp [trimStart, hy] at h
      simpa [h] using hy

theorem getLast?_trimEnd {xs : List α} {x : α} (h : (trimEnd p xs).getLast? = some x) :
    p x = false :=
  head?_trimStart (show (trimStart p xs.reverse).head? = some x by
    simpa [trimEnd, trimStart] using h)

/-- Trimming the end keeps the first element unless nothing is left. -/
theorem head?_trimEnd {xs : List α} {x : α} (h : (trimEnd p xs).head? = some x) :
    xs.head? = some x := by
  have hsplit : xs = trimEnd p xs ++ (xs.reverse.takeWhile p).reverse := by
    have := congrArg List.reverse (List.takeWhile_append_dropWhile (p := p) (l := xs.reverse))
    rw [List.reverse_append, List.reverse_reverse] at this
    exact this.symm
  rw [hsplit]
  cases ht : trimEnd p xs with
  | nil => simp [ht] at h
  | cons y rest => simpa [ht] using h

theorem trim_trim (xs : List α) : trim p (trim p xs) = trim p xs := by
  have hs : trimStart p (trim p xs) = trim p xs :=
    trimStart_eq_self fun x hx => head?_trimStart (head?_trimEnd hx)
  show trimEnd p (trimStart p (trim p xs)) = trim p xs
  rw [hs]
  exact trimEnd_eq_self fun x hx => getLast?_trimEnd hx

end Lemmas

/-! ## Blanks -/

namespace Text

/-- The blank characters: the white space of Unicode and the four information separators. -/
def isBlank (c : Char) : Bool :=
  let n := c.toNat
  (0x09 ≤ n && n ≤ 0x0D) || (0x1C ≤ n && n ≤ 0x20) || n == 0x85 || n == 0xA0 || n == 0x1680 ||
    (0x2000 ≤ n && n ≤ 0x200A) || n == 0x2028 || n == 0x2029 || n == 0x202F || n == 0x205F ||
    n == 0x3000

/-- The text without blanks at its ends. -/
def strip (t : Text) : Text := trim isBlank t

/-- Whether only blanks are left of a text. -/
def isBlankText (t : Text) : Bool := t.strip.isEmpty

/-- The text without the carriage returns and line feeds that end it. -/
def chomp (t : Text) : Text := trimEnd (fun c => c == '\r' || c == '\n') t

theorem strip_strip (t : Text) : t.strip.strip = t.strip := trim_trim t

end Text

namespace Bytes

/-- The blank bytes: space, tab, line feed, vertical tab, form feed and carriage return. -/
def isBlank (b : UInt8) : Bool := (9 ≤ b && b ≤ 13) || b == 32

/-- The byte string without blanks at its ends. -/
def strip (b : Bytes) : Bytes := trim isBlank b

end Bytes

end Attribution
