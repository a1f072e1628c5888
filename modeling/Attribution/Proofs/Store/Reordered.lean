import Attribution.Proofs.Store.Lookup

/-!
# Rules in another order

A store keeps one rule for each key, the last that came in. So it makes no difference to
what applies to whom in which order rules come in, as long as those with the same key stay
in theirs.

- `Rule.Reordered`: the same rules in an order that differs only for different keys.
- `Rule.isLastIn_iff_exists_place`: the last rule for a key, told by places.
- `Rule.Reordered.isLastIn_iff`: lists that are reordered have the same last rules.
- `Store.find?_of_mem_iff`: which rules are listed tells which applies.
- `Store.lookup_reordered`: stores that reordered rules make answer alike.
-/

namespace Attribution

namespace Rule

variable {xs ys : List Rule} {r : Rule}

/-- A list of rules in another order, in which rules with the same key keep theirs. Each
place goes to one with the same rule, and of two places whose rules have the same key, the
first goes before the second. -/
def Reordered (xs ys : List Rule) : Prop :=
  ∃ place : Fin xs.length ≃ Fin ys.length,
    (∀ i, ys.get (place i) = xs.get i) ∧
      ∀ i j, i < j → (xs.get i).key = (xs.get j).key → place i < place j

theorem Reordered.symm (h : Reordered xs ys) : Reordered ys xs := by
  obtain ⟨place, hrule, horder⟩ := h
  have hback : ∀ j, xs.get (place.symm j) = ys.get j := fun j => by
    rw [← hrule, place.apply_symm_apply]
  refine ⟨place.symm, hback, fun i j hij hkey => ?_⟩
  -- had they gone the other way round, so would the places they came from
  by_contra hnot
  have hne : place.symm j ≠ place.symm i := place.symm.injective.ne (ne_of_gt hij)
  have hlt : place.symm j < place.symm i := lt_of_le_of_ne (not_lt.mp hnot) hne
  have hswapped := horder _ _ hlt (by rw [hback, hback, hkey])
  rw [place.apply_symm_apply, place.apply_symm_apply] at hswapped
  exact absurd hij (lt_asymm hswapped)

theorem Reordered.mem_iff (h : Reordered xs ys) : r ∈ ys ↔ r ∈ xs := by
  have hkept : ∀ {xs ys : List Rule}, Reordered xs ys → r ∈ xs → r ∈ ys := by
    rintro xs ys ⟨place, hrule, -⟩ hr
    obtain ⟨i, rfl⟩ := List.get_of_mem hr
    rw [← hrule]
    exact List.get_mem ys _
  exact ⟨hkept h.symm, hkept h⟩

/-- The last rule for a key stands in a place after which no rule has the key. -/
theorem isLastIn_iff_exists_place :
    r.IsLastIn xs ↔ ∃ i, xs.get i = r ∧ ∀ j, i < j → (xs.get j).key ≠ r.key := by
  constructor
  · rintro ⟨before, after, rfl, hafter⟩
    refine ⟨⟨before.length, by simp⟩, by simp, fun j hj => hafter _ ?_⟩
    obtain ⟨k, hk⟩ := Nat.exists_eq_add_of_lt (show before.length < j.val from hj)
    refine List.mem_of_getElem? (i := k) ?_
    calc after[k]?
      _ = (before ++ r :: after)[j.val]? := by
        rw [hk, Nat.add_assoc, List.getElem?_append_right (Nat.le_add_right ..),
          Nat.add_sub_cancel_left, List.getElem?_cons_succ]
      _ = some ((before ++ r :: after).get j) := List.getElem?_eq_getElem j.isLt
  · rintro ⟨i, rfl, hlater⟩
    refine ⟨xs.take i, xs.drop (i + 1), ?_, fun q hq => ?_⟩
    · rw [List.get_eq_getElem, List.getElem_cons_drop, List.take_append_drop]
    · obtain ⟨k, hk, rfl⟩ := List.mem_drop_iff_getElem.mp hq
      exact hlater ⟨i + 1 + k, by omega⟩ (show i.val < i.val + 1 + k by omega)

/-- **Lists that are reordered have the same last rules** for their keys. -/
theorem Reordered.isLastIn_iff (h : Reordered xs ys) : r.IsLastIn ys ↔ r.IsLastIn xs := by
  have hkept : ∀ {xs ys : List Rule}, Reordered xs ys → r.IsLastIn xs → r.IsLastIn ys := by
    intro xs ys h hr
    obtain ⟨i, rfl, hlater⟩ := isLastIn_iff_exists_place.mp hr
    obtain ⟨place, hrule, horder⟩ := h
    refine isLastIn_iff_exists_place.mpr ⟨place i, hrule i, fun j hj hkey => ?_⟩
    obtain ⟨k, rfl⟩ := place.surjective j
    rw [hrule] at hkey
    -- a rule with the key stood before the last one, and so it still does
    have hki : k < i := by
      refine lt_of_le_of_ne (not_lt.mp fun hik => hlater k hik hkey) ?_
      rintro rfl
      exact absurd hj (lt_irrefl _)
    exact absurd hj (lt_asymm (horder k i hki hkey))
  exact ⟨hkept h.symm, hkept h⟩

end Rule

namespace Store

variable {s t : Store}

/-- **Which rules are listed tells which applies**, whatever their order. -/
theorem find?_of_mem_iff (h : ∀ r, r ∈ s.toList ↔ r ∈ t.toList) : s.find? = t.find? := by
  funext name email
  cases name <;> simp only [find?, get?_of_mem_iff h]

section Reordered

variable {xs ys : List Rule}

/-- **Only the order of rules with the same key matters.** Valid rules that come into an empty
store in different orders, but those with the same key in the same one, all come in. The same
rule then applies to every name, or none, with every email, the identity is resolved to
the same, and the same rules are listed, if in different orders. -/
theorem lookup_reordered (hxs : ∀ r ∈ xs, r.IsValid) (h : Rule.Reordered xs ys) :
    ∃ s t, empty.addAll xs = (s, .ok ()) ∧ empty.addAll ys = (t, .ok ()) ∧
      (∀ name email, s.find? name email = t.find? name email ∧
        s.resolve name email = t.resolve name email) ∧
      s.toList.Perm t.toList := by
  have hys : ∀ r ∈ ys, r.IsValid := fun r hr => hxs r (h.mem_iff.mp hr)
  have hmem : ∀ r, r ∈ (empty.insertAll xs).toList ↔ r ∈ (empty.insertAll ys).toList := by
    intro r
    have hempty : r ∉ empty.toList := List.not_mem_nil
    simp only [mem_toList_insertAll, hempty, false_and, or_false, h.isLastIn_iff]
  have hfind := find?_of_mem_iff hmem
  refine ⟨empty.insertAll xs, empty.insertAll ys, addAll_of_forall hxs, addAll_of_forall hys,
    fun name email => ⟨by rw [hfind], by simp only [resolve, hfind]⟩, ?_⟩
  exact (List.perm_ext_iff_of_nodup (nodup_toList _) (nodup_toList _)).mpr hmem

end Reordered

/-! ### Rules for one email -/

/-- A rule for whoever has an email. -/
def anyone : Rule := ⟨some "Jane".toList, none, none, "jd@x".toList⟩

/-- A rule for one name with the email. -/
def oneName : Rule := ⟨some "John".toList, none, some "jd".toList, "JD@x".toList⟩

/-- A later rule for whoever has the email, which is spelled in another way. -/
def anyoneAnew : Rule := ⟨some "Jane Doe".toList, none, none, "Jd@X".toList⟩

/-- The rule for one name may come in before the others or between them, and what is listed
first differs. But the rule for the name still wins over the last of the others, and this
one applies where there is no name. -/
theorem lookup_reordered_anyone :
    (∀ r ∈ [anyone, oneName, anyoneAnew], r.IsValid) ∧
      Rule.Reordered [anyone, oneName, anyoneAnew] [oneName, anyone, anyoneAnew] ∧
      ∃ s t, empty.addAll [anyone, oneName, anyoneAnew] = (s, .ok ()) ∧
        empty.addAll [oneName, anyone, anyoneAnew] = (t, .ok ()) ∧
        s.toList = [anyoneAnew, oneName] ∧ t.toList = [oneName, anyoneAnew] ∧
        s.find? (some "jd".toList) "jD@x".toList = some oneName ∧
        t.find? (some "jd".toList) "jD@x".toList = some oneName ∧
        s.find? none "jD@x".toList = some anyoneAnew ∧
        t.find? none "jD@x".toList = some anyoneAnew := by
  have hvalid : ∀ r ∈ [anyone, oneName, anyoneAnew], r.IsValid := by decide
  have hreordered : Rule.Reordered [anyone, oneName, anyoneAnew] [oneName, anyone, anyoneAnew] :=
    ⟨(Equiv.swap 0 1 : Fin 3 ≃ Fin 3), by decide, by decide⟩
  obtain ⟨s, t, hs, ht, hfind, -⟩ := lookup_reordered hvalid hreordered
  have hlist : s.toList = [anyoneAnew, oneName] := by
    cases hs.symm.trans (addAll_of_forall hvalid)
    rw [toList_insertAll]
    decide
  have hlist' : t.toList = [oneName, anyoneAnew] := by
    cases ht.symm.trans (addAll_of_forall fun r hr => hvalid r (hreordered.mem_iff.mp hr))
    rw [toList_insertAll]
    decide
  have hname : s.find? (some "jd".toList) "jD@x".toList = some oneName := by
    rw [find?_eq_search, hlist]
    decide
  have hnone : s.find? none "jD@x".toList = some anyoneAnew := by
    rw [find?_eq_search, hlist]
    decide
  exact ⟨hvalid, hreordered, s, t, hs, ht, hlist, hlist', hname, (hfind _ _).1.symm.trans hname,
    hnone, (hfind _ _).1.symm.trans hnone⟩

end Store

end Attribution
