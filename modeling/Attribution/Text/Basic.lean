/-!
# Text and bytes

The two raw materials of the library, both as lists so that every function on them is a plain
recursion.

- `Text`: a sequence of Unicode scalar values.
- `Bytes`: a sequence of octets.
- `Text.splitOn`, `Text.lines`: the pieces between separators, always at least one.
- `Text.join`: the pieces with a separator between them.
-/

namespace Attribution

/-- A text is a sequence of Unicode scalar values. A lone surrogate is none, so what a program does
with one, which it may find in place of bytes of its command line that are not UTF-8, is outside
the library. -/
abbrev Text := List Char

/-- A byte string is a sequence of octets. -/
abbrev Bytes := List UInt8

namespace Text

/-! ## Cutting and joining -/

/-- The pieces between the occurrences of `sep`; a text without it is its own only piece. -/
def splitOn (sep : Char) : Text → List Text
  | [] => [[]]
  | c :: rest =>
    if c = sep then [] :: splitOn sep rest
    else
      match splitOn sep rest with
      | [] => [[c]]
      | piece :: pieces => (c :: piece) :: pieces

/-- The lines of a text: only a line feed ends one, and what follows the last is a line too. -/
def lines (t : Text) : List Text := t.splitOn '\n'

/-- The pieces one after the other with `sep` between neighbours. -/
def join (sep : Text) : List Text → Text
  | [] => []
  | [piece] => piece
  | piece :: pieces => piece ++ sep ++ join sep pieces

/-- Whether `t` starts with the text `s`. -/
def startsWith (t s : Text) : Bool := s.isPrefixOf t

/-- A text of no characters is no value at all where a field may be absent. -/
def nonEmpty? : Text → Option Text
  | [] => none
  | t => some t

theorem splitOn_ne_nil (sep : Char) (t : Text) : t.splitOn sep ≠ [] := by
  cases t with
  | nil => simp [splitOn]
  | cons c rest =>
    unfold splitOn
    split
    · simp
    · split <;> simp

end Text

end Attribution
