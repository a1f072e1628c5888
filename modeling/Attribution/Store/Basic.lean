import Attribution.Rule.Basic
import Std.Data.HashMap

/-!
# The store of rules

Rules in the order in which what they apply to was first mentioned, at most one for each key. A
later rule for the same key takes the place of the earlier one.

- `Store`: the rules and, for each key, the place of its rule.
- `Store.toList`: the rules in order; the view in which the operations are described.
- `Store.insert`: adds a rule or puts it in place of another.
- `Store.get?`: the rule of a key.
- `Store.toList_insert`: what adding a rule does to the list.
- `Store.get?_eq_some_iff`, `Store.nodup_keys`: the rule of a key is the only one that has it.
- `Store.insertAll`, `Store.ofList`: adds rules one after the other.
-/

namespace Attribution

/-- The place of the rule of each key, and the rules in order. The places are exact, so no two rules
have the same key. -/
structure Store where
  places : Std.HashMap Key Nat
  rules : Array Rule
  places_iff : ∀ k i, places[k]? = some i ↔ rules[i]?.map Rule.key = some k

namespace Store

/-- The store without rules. -/
def empty : Store where
  places := ∅
  rules := #[]
  places_iff := by simp

/-- The number of rules. -/
def size (s : Store) : Nat := s.rules.size

/-- The rules in order. -/
def toList (s : Store) : List Rule := s.rules.toList

/-- The rule of a key. -/
def get? (s : Store) (k : Key) : Option Rule := s.places[k]?.bind (s.rules[·]?)

/-- Adds a rule at the end, or in the place of the rule with the same key. -/
def insert (s : Store) (r : Rule) : Store :=
  match h : s.places[r.key]? with
  | some i =>
    { places := s.places
      rules := s.rules.setIfInBounds i r
      places_iff := fun k j => by
        rw [s.places_iff, Array.getElem?_setIfInBounds]
        have hi := (s.places_iff r.key i).1 h
        by_cases hij : i = j
        · subst hij
          by_cases hlt : i < s.rules.size <;> simp_all
        · simp [hij] }
  | none =>
    { places := s.places.insert r.key s.rules.size
      rules := s.rules.push r
      places_iff := fun k j => by
        rw [Std.HashMap.getElem?_insert, Array.getElem?_push]
        by_cases hk : r.key = k
        · subst hk
          have hnone : ∀ i, s.rules[i]?.map Rule.key ≠ some r.key := fun i hi =>
            absurd ((s.places_iff r.key i).2 hi) (by simp [h])
          by_cases hj : j = s.rules.size
          · simp [hj]
          · simpa [hj, eq_comm] using hnone j
        · by_cases hj : j = s.rules.size
          · have := s.places_iff k s.rules.size
            simp_all
          · simpa [hk, hj] using s.places_iff k j }

/-! ## The view -/

@[simp] theorem toList_empty : empty.toList = [] := rfl

@[simp] theorem length_toList (s : Store) : s.toList.length = s.size := by simp [toList, size]

/-- The place of a key is where the rule with the key stands in the list. -/
theorem places_eq_some_iff {s : Store} {k : Key} {i : Nat} :
    s.places[k]? = some i ↔ s.toList[i]?.map Rule.key = some k := by
  simpa [toList] using s.places_iff k i

theorem get?_eq_some_iff {s : Store} {k : Key} {r : Rule} :
    s.get? k = some r ↔ r ∈ s.toList ∧ r.key = k := by
  simp only [get?, Option.bind_eq_some_iff, places_eq_some_iff]
  constructor
  · rintro ⟨i, hk, hr⟩
    have hr' : s.toList[i]? = some r := by simpa [toList] using hr
    exact ⟨List.mem_of_getElem? hr', by simpa [hr'] using hk⟩
  · rintro ⟨hr, rfl⟩
    obtain ⟨i, hi⟩ := List.getElem?_of_mem hr
    exact ⟨i, by simp [hi], by simpa [toList] using hi⟩

theorem nodup_keys (s : Store) : (s.toList.map Rule.key).Nodup := by
  refine List.pairwise_iff_getElem.2 fun i j hi hj hij heq => ?_
  have hat {n : Nat} (hn : n < (s.toList.map Rule.key).length) :
      s.places[(s.toList.map Rule.key)[n]]? = some n :=
    places_eq_some_iff.2 (by rw [← List.getElem?_map, List.getElem?_eq_getElem hn])
  have := hat hi
  rw [heq, hat hj] at this
  exact absurd (Option.some.inj this) (by omega)

/-- A rule comes in the place of the rule with its key, or else at the end. -/
theorem toList_insert (s : Store) (r : Rule) :
    (s.insert r).toList =
      if r.key ∈ s.toList.map Rule.key then
        s.toList.map fun q => if q.key = r.key then r else q
      else s.toList ++ [r] := by
  unfold insert
  split
  · next i h =>
    have hi := places_eq_some_iff.1 h
    rw [if_pos (List.mem_of_getElem? (by simpa using hi))]
    have hplace {j : Nat} {q : Rule} (hq : s.toList[j]? = some q) (hk : q.key = r.key) : i = j :=
      Option.some.inj (h.symm.trans (places_eq_some_iff.2 (by simp [hq, hk])))
    refine List.ext_getElem? fun j => ?_
    show (s.rules.setIfInBounds i r).toList[j]? = _
    rw [Array.toList_setIfInBounds, List.getElem?_set, List.getElem?_map]
    show (if i = j then if i < s.toList.length then some r else none else s.toList[j]?) = _
    by_cases hij : i = j
    · subst hij
      obtain ⟨q, hq, hk⟩ := Option.map_eq_some_iff.1 hi
      have hlt := (List.getElem?_eq_some_iff.1 hq).1
      rw [if_pos rfl, if_pos hlt, hq, Option.map_some, if_pos hk]
    · rw [if_neg hij]
      cases hq : s.toList[j]? with
      | none => rfl
      | some q => rw [Option.map_some, if_neg fun hk => hij (hplace hq hk)]
  · next h =>
    have hnot : r.key ∉ s.toList.map Rule.key := fun hm => by
      obtain ⟨i, hi⟩ := List.getElem?_of_mem hm
      exact absurd (places_eq_some_iff.2 (by simpa using hi)) (by simp [h])
    rw [if_neg hnot]
    simp [toList]

/-! ## Several rules -/

/-- Adds rules one after the other. -/
def insertAll (s : Store) (rs : List Rule) : Store := rs.foldl insert s

/-- The store of a list of rules. -/
def ofList (rs : List Rule) : Store := empty.insertAll rs

end Store

end Attribution
