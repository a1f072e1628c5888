import Attribution.Text.Basic
import Attribution.Text.CaseTable

/-!
# Lower-casing

Full lower-casing of text: one character may become two, and a capital sigma at the end of a word
becomes a final sigma.

- `Lowercase.char`: the lower-case form of one character on its own.
- `Text.lower`: the lower-case form of a text.
-/

namespace Attribution

namespace Lowercase

/-- The code point that a run assigns to `n`, if `n` is one of its capitals. -/
def runImage? (run : CaseRun) (n : Nat) : Option Nat :=
  if run.first ≤ n ∧ n ≤ run.last ∧ (n - run.first) % run.step = 0 then
    some (n + run.shift).toNat
  else none

/-- The lower-case form of a character outside any context. The dotted capital I keeps its dot as a
combining mark; it is the only character with a form of two. -/
def char (c : Char) : Text :=
  if c.toNat = 0x130 then ['i', '\u0307']
  else
    match CaseTable.lowercaseRuns.findSome? (runImage? · c.toNat) with
    | some n => [Char.ofNat n]
    | none => [c]

/-- Whether a character is cased and not case-ignorable. -/
def isCased (c : Char) : Bool := CaseTable.cased.contains c.toNat

/-- Whether a character is passed over when looking for a cased neighbour. -/
def isIgnorable (c : Char) : Bool := CaseTable.ignorable.contains c.toNat

/-- Whether a cased character comes next in a text, ignorable characters aside. -/
def startsCased (t : Text) : Bool := (t.dropWhile isIgnorable).head?.any isCased

/-- The lower-case form of a capital sigma: the final one when a cased character comes before and
none after. -/
def sigma (afterCased : Bool) (rest : Text) : Char :=
  if afterCased && !startsCased rest then 'ς' else 'σ'

/-- The lower-case form of a text that follows a cased character or not. -/
def lowerAfter (afterCased : Bool) : Text → Text
  | [] => []
  | c :: rest =>
    (if c = 'Σ' then [sigma afterCased rest] else char c) ++
      lowerAfter (if isIgnorable c then afterCased else isCased c) rest

end Lowercase

/-- The lower-case form of a text. -/
def Text.lower (t : Text) : Text := Lowercase.lowerAfter false t

end Attribution
