/-!
# Ranges of code points

A class of characters as a table of code point ranges.

- `Ranges`: disjoint inclusive ranges in ascending order.
- `Ranges.contains`: membership, which stops at the first range that starts too late.
-/

namespace Attribution

/-- Disjoint ranges of code points, both ends included, in ascending order. -/
abbrev Ranges := List (Nat × Nat)

/-- Whether a code point lies in one of the ranges. -/
def Ranges.contains : Ranges → Nat → Bool
  | [], _ => false
  | (first, last) :: rest, n =>
    if n < first then false else if n ≤ last then true else Ranges.contains rest n

end Attribution
