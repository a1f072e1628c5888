import Attribution.Proofs.Rule.Fields
import Attribution.Store.Add

/-!
# What adding rules makes of a store

The effect of one and of many added rules, told by the keys in their order and by
the rules that are listed.

- `Store.get?_of_mem_iff`: which rules are listed tells which has a key.
- `Store.keys`: the keys of a store, in the order of its rules.
- `Store.keys_insertAll`: keys stand in the order in which they were first added.
- `Store.toList_insertAll`: a list gets one rule put into it after the other.
- `Store.mem_toList_insertAll`: a rule is listed when it was the last one added
  for its key, or was there before and no added rule has its key.
- `Store.toList_insertAll_of_nodup`: rules with new keys come at the end, one
  after the other.
- `Store.addAll_of_forall`, `Store.addAll_of_invalid`: checked rules come in up
  to the first that is not valid.
- `Store.addAll_of_recheck`: the failure of that rule is the one that comes out.
-/

namespace Attribution

theorem eraseDups_eq_self {α : Type} [DecidableEq α] {xs : List α}
    (h : xs.Nodup) : xs.eraseDups = xs := by
  induction xs with
  | nil => rfl
  | cons x rest ih =>
    obtain ⟨hx, hrest⟩ := List.nodup_cons.mp h
    have hfilter : (rest.filter fun y => !y == x) = rest := by
      refine List.filter_eq_self.mpr fun y hy => ?_
      have hne : y ≠ x := fun heq => hx (heq ▸ hy)
      simpa using hne
    rw [List.eraseDups_cons, hfilter, ih hrest]

/-- A rule is the last one for its key in a list: after it comes no other rule
with that key. -/
def Rule.IsLastIn (r : Rule) (rs : List Rule) : Prop :=
  ∃ before after, rs = before ++ r :: after ∧ ∀ q ∈ after, q.key ≠ r.key

/-- The last rule for a key is so in the rest of the list, unless it is the first
rule and the rest has no other for the key. -/
theorem Rule.isLastIn_cons {r p : Rule} {rs : List Rule} :
    r.IsLastIn (p :: rs) ↔ r.IsLastIn rs ∨ r = p ∧ ∀ q ∈ rs, q.key ≠ r.key := by
  constructor
  · rintro ⟨before, after, heq, hafter⟩
    cases before with
    | nil =>
      cases heq
      exact .inr ⟨rfl, hafter⟩
    | cons b before =>
      cases heq
      exact .inl ⟨before, after, rfl, hafter⟩
  · rintro (⟨before, after, rfl, hafter⟩ | ⟨rfl, hrs⟩)
    · exact ⟨p :: before, after, rfl, hafter⟩
    · exact ⟨[], rs, rfl, hrs⟩

/-- A list with a rule put into it: in the place of the one with its key, or else at the
end. -/
def Rule.putInto (rs : List Rule) (r : Rule) : List Rule :=
  if r.key ∈ rs.map Rule.key then rs.map fun q => if q.key = r.key then r else q
  else rs ++ [r]

namespace Store

/-! ## The rules that are listed -/

theorem nodup_toList (s : Store) : s.toList.Nodup := s.nodup_keys.of_map

theorem get?_of_mem_iff {s t : Store} (h : ∀ r, r ∈ s.toList ↔ r ∈ t.toList) :
    s.get? = t.get? :=
  funext fun k => Option.ext fun r => by rw [get?_eq_some_iff, get?_eq_some_iff, h]

/-! ## One rule -/

/-- The keys of a store in the order of its rules. -/
def keys (s : Store) : List Key := s.toList.map Rule.key

/-- A key that is there already keeps its place, and a new one comes last. -/
theorem keys_insert (s : Store) (r : Rule) :
    (s.insert r).keys = if r.key ∈ s.keys then s.keys else s.keys ++ [r.key] := by
  unfold keys
  rw [toList_insert]
  split
  · rw [List.map_map]
    refine List.map_congr_left fun q _ => ?_
    show (if q.key = r.key then r else q).key = q.key
    split
    · next hq => exact hq.symm
    · rfl
  · rw [List.map_append]
    rfl

/-- A store with an added rule lists this rule and those with another key. -/
theorem mem_toList_insert {s : Store} {r q : Rule} :
    q ∈ (s.insert r).toList ↔ q = r ∨ q ∈ s.toList ∧ q.key ≠ r.key := by
  rw [toList_insert]
  split
  · next hmem =>
    rw [List.mem_map]
    constructor
    · rintro ⟨p, hp, rfl⟩
      split
      · exact .inl rfl
      · next hne => exact .inr ⟨hp, hne⟩
    · rintro (rfl | ⟨hq, hne⟩)
      · obtain ⟨p, hp, hkey⟩ := List.mem_map.mp hmem
        exact ⟨p, hp, if_pos hkey⟩
      · exact ⟨q, hq, if_neg hne⟩
  · next hnot =>
    rw [List.mem_append, List.mem_singleton]
    constructor
    · rintro (hq | rfl)
      · exact .inr ⟨hq, fun hkey => hnot (hkey ▸ List.mem_map_of_mem hq)⟩
      · exact .inl rfl
    · rintro (rfl | ⟨hq, -⟩)
      · exact .inr rfl
      · exact .inl hq

/-! ## Many rules -/

theorem insertAll_append (s : Store) (rs qs : List Rule) :
    s.insertAll (rs ++ qs) = (s.insertAll rs).insertAll qs :=
  List.foldl_append ..

/-- **Keys stand in the order of first addition**, after those that were there. -/
theorem keys_insertAll (s : Store) (rs : List Rule) :
    (s.insertAll rs).keys = (s.keys ++ rs.map Rule.key).eraseDups := by
  induction rs generalizing s with
  | nil =>
    show s.keys = _
    rw [List.map_nil, List.append_nil]
    exact (eraseDups_eq_self s.nodup_keys).symm
  | cons r rest ih =>
    show ((s.insert r).insertAll rest).keys = _
    rw [ih, keys_insert, List.map_cons]
    split
    -- a key that was there is erased as a duplicate, so it can be left out at once
    · next hmem =>
      rw [List.eraseDups_append, List.eraseDups_append, List.cons_removeAll]
      simp [hmem]
    · rw [List.append_assoc]
      rfl

/-- **The rules listed are the last ones for their keys.** -/
theorem mem_toList_insertAll {s : Store} {rs : List Rule} {r : Rule} :
    r ∈ (s.insertAll rs).toList ↔
      r.IsLastIn rs ∨ r ∈ s.toList ∧ ∀ q ∈ rs, q.key ≠ r.key := by
  induction rs generalizing s with
  | nil =>
    constructor
    · intro h
      exact .inr ⟨h, fun q hq => absurd hq List.not_mem_nil⟩
    · rintro (⟨before, after, heq, -⟩ | ⟨h, -⟩)
      · exact absurd heq (by simp)
      · exact h
  | cons p rest ih =>
    show r ∈ ((s.insert p).insertAll rest).toList ↔ _
    -- the first rule is last for its key only if no later one has the key
    rw [ih, mem_toList_insert, Rule.isLastIn_cons]
    constructor
    · rintro (hlast | ⟨rfl | ⟨hr, hne⟩, hrest⟩)
      · exact .inl (.inl hlast)
      · exact .inl (.inr ⟨rfl, hrest⟩)
      · exact .inr ⟨hr, List.forall_mem_cons.mpr ⟨hne.symm, hrest⟩⟩
    · rintro ((hlast | ⟨rfl, hrest⟩) | ⟨hr, hall⟩)
      · exact .inl hlast
      · exact .inr ⟨.inl rfl, hrest⟩
      · obtain ⟨hne, hrest⟩ := List.forall_mem_cons.mp hall
        exact .inr ⟨.inr ⟨hr, hne.symm⟩, hrest⟩

/-- What many rules do to a list is done to it by one after the other. -/
theorem toList_insertAll (s : Store) (rs : List Rule) :
    (s.insertAll rs).toList = rs.foldl Rule.putInto s.toList := by
  induction rs generalizing s with
  | nil => rfl
  | cons r rest ih =>
    show ((s.insert r).insertAll rest).toList = _
    rw [ih, toList_insert]
    rfl

theorem toList_insertAll_congr {s s' : Store} (h : s'.toList = s.toList) (rs : List Rule) :
    (s'.insertAll rs).toList = (s.insertAll rs).toList := by
  rw [toList_insertAll, toList_insertAll, h]

theorem toList_insertAll_of_nodup {s : Store} {rs : List Rule}
    (h : (s.keys ++ rs.map Rule.key).Nodup) :
    (s.insertAll rs).toList = s.toList ++ rs := by
  induction rs generalizing s with
  | nil => exact (List.append_nil _).symm
  | cons r rest ih =>
    have hnew : r.key ∉ s.keys := fun hmem =>
      (List.nodup_append.mp h).2.2 r.key hmem r.key (List.mem_cons_self ..) rfl
    have hinsert : (s.insert r).toList = s.toList ++ [r] :=
      (toList_insert s r).trans (if_neg hnew)
    show ((s.insert r).insertAll rest).toList = _
    rw [ih, hinsert, List.append_assoc]
    · rfl
    · rw [keys_insert, if_neg hnew, List.append_assoc]
      exact h

theorem toList_insertAll_toList (s : Store) :
    (empty.insertAll s.toList).toList = s.toList :=
  toList_insertAll_of_nodup s.nodup_keys

/-! ## Checked rules -/

theorem addAll_of_forall {s : Store} {rs : List Rule} (h : ∀ r ∈ rs, r.IsValid) :
    s.addAll rs = (s.insertAll rs, .ok ()) := by
  induction rs generalizing s with
  | nil => rfl
  | cons r rest ih =>
    obtain ⟨hr, hrest⟩ := List.forall_mem_cons.mp h
    rw [addAll, Rule.recheck_eq_ok_iff.mpr ⟨rfl, hr⟩]
    exact ih hrest

/-- Rules come into a store up to the first that fails its checks, and that failure
comes out. -/
theorem addAll_of_recheck {s : Store} {before after : List Rule} {r : Rule}
    {e : FieldFailure} (hbefore : ∀ q ∈ before, q.IsValid) (hr : r.recheck = .error e) :
    s.addAll (before ++ r :: after) = (s.insertAll before, .error (.field e)) := by
  induction before generalizing s with
  | nil =>
    rw [List.nil_append, addAll, hr]
    rfl
  | cons q rest ih =>
    obtain ⟨hq, hrest⟩ := List.forall_mem_cons.mp hbefore
    rw [List.cons_append, addAll, Rule.recheck_eq_ok_iff.mpr ⟨rfl, hq⟩]
    exact ih (s := s.insert q) hrest

/-- Rules come into a store up to the first that is not valid; it is refused
because of a field. -/
theorem addAll_of_invalid {s : Store} {before after : List Rule} {r : Rule}
    (hbefore : ∀ q ∈ before, q.IsValid) (hr : ¬ r.IsValid) :
    ∃ e, s.addAll (before ++ r :: after) =
      (s.insertAll before, .error (.field e)) := by
  cases hcheck : r.recheck with
  | ok r' => exact absurd (Rule.recheck_eq_ok_iff.mp hcheck).2 hr
  | error e => exact ⟨e, addAll_of_recheck hbefore hcheck⟩

end Store

end Attribution
