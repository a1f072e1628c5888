import Attribution.Proofs.Loading.Reachable

/-!
# Layers of rules

Lists of rules that are added one after the other are layers: each takes the place of what
is there for its keys. A layer can be merged before it is added, since a rule keeps the place
where its key came in first and the contents that came in last.

- `Store.toList_eq_filterMap`, `Store.toList_ext`: a list is told by its keys, in order, and by its
  rules, in whatever order.
- `Store.toList_insertAll_insert`: merging one more rule into a layer before it is added.
- `Store.toList_insertAll_insertAll`: merging many.
- `Store.toList_insertAll_self`: a layer that is added again changes nothing.
- `Store.LayersTo`: what a store lists after layers that come in without failure.
- `Store.layers_merged`: all of it for the stores that can come about.
-/

namespace Attribution

namespace Store

variable {s t : Store}

/-! ## Keys and rules tell the list -/

theorem toList_eq_filterMap (s : Store) : s.toList = s.keys.filterMap s.get? := by
  have hget : ∀ r ∈ s.toList, (s.get? ∘ Rule.key) r = some r := fun r hr =>
    get?_eq_some_iff.mpr ⟨hr, rfl⟩
  rw [keys, List.filterMap_map, List.filterMap_congr hget, List.filterMap_some]

/-- **Two stores with the same keys in the same order and with the same rules** list the
same. -/
theorem toList_ext (hkeys : s.keys = t.keys) (hmem : ∀ r, r ∈ s.toList ↔ r ∈ t.toList) :
    s.toList = t.toList := by
  rw [toList_eq_filterMap s, toList_eq_filterMap t, hkeys, get?_of_mem_iff hmem]

/-! ## Merging before adding -/

theorem mem_keys_insert {r : Rule} {k : Key} :
    k ∈ (s.insert r).keys ↔ k ∈ s.keys ∨ k = r.key := by
  rw [keys_insert]
  split
  · next hmem => exact (or_iff_left_of_imp fun heq => heq ▸ hmem).symm
  · rw [List.mem_append, List.mem_singleton]

/-- Among rules with different keys, each is the last one for its key. -/
theorem isLastIn_toList_iff {r : Rule} : r.IsLastIn t.toList ↔ r ∈ t.toList := by
  have hself := t.toList_insertAll_toList
  rw [← hself, mem_toList_insertAll, hself]
  exact (or_iff_left fun h => absurd h.1 List.not_mem_nil).symm

/-- After the rules of another store come in, these are listed, and the rules that were
there if the other store has none for the key. -/
theorem mem_toList_insertAll_toList {r : Rule} :
    r ∈ (s.insertAll t.toList).toList ↔ r ∈ t.toList ∨ r ∈ s.toList ∧ r.key ∉ t.keys := by
  have hkeys : (∀ q ∈ t.toList, q.key ≠ r.key) ↔ r.key ∉ t.keys := by
    rw [keys, List.mem_map, not_exists]
    exact forall_congr' fun q => not_and.symm
  rw [mem_toList_insertAll, isLastIn_toList_iff, hkeys]

/-- After the rules of another store come in, its keys follow those that were there. -/
theorem keys_insertAll_toList (s t : Store) :
    (s.insertAll t.toList).keys = (s.keys ++ t.keys).eraseDups :=
  keys_insertAll s t.toList

/-- A key that comes last stands behind those of the layer that it was merged into. -/
theorem keys_insertAll_insert (s t : Store) (r : Rule) :
    (s.insertAll (t.insert r).toList).keys = ((s.insertAll t.toList).insert r).keys := by
  rw [keys_insertAll_toList]
  by_cases hmem : r.key ∈ t.keys
  · have hmem' : r.key ∈ (s.insertAll t.toList).keys := by
      rw [keys_insertAll_toList, List.mem_eraseDups]
      exact List.mem_append_right _ hmem
    rw [keys_insert, if_pos hmem, keys_insert, if_pos hmem', keys_insertAll_toList]
  · have hone : (s.insertAll t.toList).insert r = s.insertAll (t.toList ++ [r]) :=
      (insertAll_append s t.toList [r]).symm
    rw [keys_insert, if_neg hmem, hone, keys_insertAll, List.map_append]
    rfl

/-- **One more rule in a layer** can be merged into it before it is added, or come in after it. -/
theorem toList_insertAll_insert (s t : Store) (r : Rule) :
    (s.insertAll (t.insert r).toList).toList = ((s.insertAll t.toList).insert r).toList := by
  refine toList_ext (keys_insertAll_insert s t r) fun q => ?_
  have hq : q.key ∉ (t.insert r).keys ↔ q.key ∉ t.keys ∧ q.key ≠ r.key := by
    rw [mem_keys_insert, not_or]
  rw [mem_toList_insert, mem_toList_insertAll_toList, mem_toList_insertAll_toList,
    mem_toList_insert, hq]
  tauto

/-- **Many more rules in a layer** can be merged into it before it is added. -/
theorem toList_insertAll_insertAll (s t : Store) (rs : List Rule) :
    (s.insertAll (t.insertAll rs).toList).toList =
      ((s.insertAll t.toList).insertAll rs).toList := by
  induction rs generalizing t with
  | nil => rfl
  | cons r rest ih =>
    calc (s.insertAll ((t.insert r).insertAll rest).toList).toList
      _ = ((s.insertAll (t.insert r).toList).insertAll rest).toList := ih (t.insert r)
      _ = (((s.insertAll t.toList).insert r).insertAll rest).toList :=
        toList_insertAll_congr (toList_insertAll_insert s t r) rest

theorem toList_insertAll_ofList (s : Store) (rs : List Rule) :
    (s.insertAll (ofList rs).toList).toList = (s.insertAll rs).toList :=
  toList_insertAll_insertAll s empty rs

/-! ## Adding again -/

theorem keys_insertAll_of_subset {rs : List Rule} (h : ∀ r ∈ rs, r.key ∈ s.keys) :
    (s.insertAll rs).keys = s.keys := by
  induction rs generalizing s with
  | nil => rfl
  | cons r rest ih =>
    obtain ⟨hr, hrest⟩ := List.forall_mem_cons.mp h
    have hkeys : (s.insert r).keys = s.keys := by rw [keys_insert, if_pos hr]
    exact (ih (by rwa [hkeys])).trans hkeys

/-- **A layer that is added again** right away changes nothing. -/
theorem toList_insertAll_self (s : Store) (rs : List Rule) :
    ((s.insertAll rs).insertAll rs).toList = (s.insertAll rs).toList := by
  refine toList_ext (keys_insertAll_of_subset fun r hr => ?_) fun q => ?_
  · rw [keys_insertAll, List.mem_eraseDups]
    exact List.mem_append_right _ (List.mem_map_of_mem hr)
  -- a rule that was there before stays only if it has no key of the layer
  · rw [mem_toList_insertAll, mem_toList_insertAll]
    tauto

/-! ## Layers -/

/-- Layers come into a store one after the other, none of them fails, and in the end the
store lists the given rules. -/
def LayersTo : Store → List (List Rule) → List Rule → Prop
  | s, [], listed => s.toList = listed
  | s, layer :: rest, listed => ∃ s', s.addAll layer = (s', .ok ()) ∧ s'.LayersTo rest listed

theorem LayersTo.unique {layers : List (List Rule)} {listed listed' : List Rule}
    (h : s.LayersTo layers listed) (h' : s.LayersTo layers listed') : listed = listed' := by
  induction layers generalizing s with
  | nil => exact h.symm.trans h'
  | cons layer rest ih =>
    obtain ⟨s₁, heq, hrest⟩ := h
    obtain ⟨s₂, heq', hrest'⟩ := h'
    cases heq.symm.trans heq'
    exact ih hrest hrest'

theorem layersTo_nil {listed : List Rule} : s.LayersTo [] listed ↔ s.toList = listed :=
  .rfl

theorem layersTo_cons {layer : List Rule} {rest : List (List Rule)} {listed : List Rule}
    (h : ∀ r ∈ layer, r.IsValid) :
    s.LayersTo (layer :: rest) listed ↔ (s.insertAll layer).LayersTo rest listed := by
  rw [LayersTo, addAll_of_forall h]
  constructor
  · rintro ⟨s', heq, hrest⟩
    cases heq
    exact hrest
  · exact fun hrest => ⟨_, rfl, hrest⟩

section Merged

variable {xs ys : List Rule}

/-- **Layers can be merged before they are added**, to any store that can come about. After
two layers of valid rules it lists what it does after what the two make of an empty store, and
after what each of them makes of one. A layer that is added again right away changes nothing,
and an empty store to which all rules of a store are added lists the same. None of this
fails. -/
theorem layers_merged (hs : s.Reachable) (hxs : ∀ r ∈ xs, r.IsValid)
    (hys : ∀ r ∈ ys, r.IsValid) :
    ∃ first second both once twice,
      empty.LayersTo [xs] first ∧ empty.LayersTo [ys] second ∧
      empty.LayersTo [xs ++ ys] both ∧
      s.LayersTo [xs, ys] twice ∧ s.LayersTo [both] twice ∧
      s.LayersTo [first, second] twice ∧
      s.LayersTo [xs] once ∧ s.LayersTo [xs, xs] once ∧
      empty.LayersTo [s.toList] s.toList := by
  have hofList : ∀ {rs : List Rule}, (∀ r ∈ rs, r.IsValid) →
      ∀ r ∈ (ofList rs).toList, r.IsValid := fun hrs =>
    (Reachable.empty.insertAll hrs).isValid
  have hboth := List.forall_mem_append.mpr ⟨hxs, hys⟩
  refine ⟨(ofList xs).toList, (ofList ys).toList, (ofList (xs ++ ys)).toList,
    (s.insertAll xs).toList, ((s.insertAll xs).insertAll ys).toList, ?_, ?_, ?_, ?_, ?_, ?_,
    ?_, ?_, ?_⟩
  -- what the layers make of an empty store
  · rw [layersTo_cons hxs, layersTo_nil, ofList]
  · rw [layersTo_cons hys, layersTo_nil, ofList]
  · rw [layersTo_cons hboth, layersTo_nil, ofList]
  -- one after the other, merged into one, and each merged
  · rw [layersTo_cons hxs, layersTo_cons hys, layersTo_nil]
  · rw [layersTo_cons (hofList hboth), layersTo_nil, toList_insertAll_ofList, insertAll_append]
  · rw [layersTo_cons (hofList hxs), layersTo_cons (hofList hys), layersTo_nil,
      toList_insertAll_ofList]
    exact toList_insertAll_congr (toList_insertAll_ofList s xs) ys
  -- once and twice
  · rw [layersTo_cons hxs, layersTo_nil]
  · rw [layersTo_cons hxs, layersTo_cons hxs, layersTo_nil, toList_insertAll_self]
  -- a store of its own
  · rw [layersTo_cons hs.isValid, layersTo_nil, toList_insertAll_toList]

end Merged

/-! ### Layers about the same people -/

/-- A rule that gives a name for an email. -/
def naming (name email : Text) : Rule := ⟨some name, none, none, email⟩

/-- What a store lists at first. -/
def ground : List Rule :=
  [naming "Jane".toList "jane@x".toList, naming "Bob".toList "bob@x".toList]

/-- A layer that names one person anew and a further one. -/
def lowerLayer : List Rule :=
  [naming "Eve".toList "eve@x".toList, naming "Jane Doe".toList "JANE@x".toList]

/-- A layer that names another person anew and the further one too. -/
def upperLayer : List Rule :=
  [naming "Bob B.".toList "BOB@x".toList, naming "Eve E.".toList "Eve@X".toList]

/-- What the layers come to by themselves. -/
def mergedLayers : List Rule :=
  [naming "Eve E.".toList "Eve@X".toList, naming "Jane Doe".toList "JANE@x".toList,
    naming "Bob B.".toList "BOB@x".toList]

/-- What they come to on top of the rules that are listed at first. -/
def layered : List Rule :=
  [naming "Jane Doe".toList "JANE@x".toList, naming "Bob B.".toList "BOB@x".toList,
    naming "Eve E.".toList "Eve@X".toList]

/-- Each person stays where the first rule about them stood, with the name that the last one
gives, although the layers come in a different order when they are merged. -/
theorem layers_merged_renamings :
    (ofList ground).Reachable ∧ (∀ r ∈ lowerLayer, r.IsValid) ∧ (∀ r ∈ upperLayer, r.IsValid) ∧
      empty.LayersTo [lowerLayer ++ upperLayer] mergedLayers ∧
      (ofList ground).LayersTo [lowerLayer, upperLayer] layered ∧
      (ofList ground).LayersTo [mergedLayers] layered := by
  have hground : (ofList ground).Reachable := Reachable.empty.insertAll (by decide)
  have hlower : ∀ r ∈ lowerLayer, r.IsValid := by decide
  have hupper : ∀ r ∈ upperLayer, r.IsValid := by decide
  have hmerged : empty.LayersTo [lowerLayer ++ upperLayer] mergedLayers := by
    rw [layersTo_cons (List.forall_mem_append.mpr ⟨hlower, hupper⟩), layersTo_nil,
      toList_insertAll]
    decide
  have hlayered : (ofList ground).LayersTo [lowerLayer, upperLayer] layered := by
    rw [layersTo_cons hlower, layersTo_cons hupper, layersTo_nil, toList_insertAll,
      toList_insertAll, ofList, toList_insertAll]
    decide
  obtain ⟨_, _, both, _, twice, -, -, hboth, htwice, hafter, -, -, -, -⟩ :=
    layers_merged hground hlower hupper
  rw [hboth.unique hmerged, htwice.unique hlayered] at hafter
  exact ⟨hground, hlower, hupper, hmerged, hlayered, hafter⟩

end Store

end Attribution
