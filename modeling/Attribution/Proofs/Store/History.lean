import Attribution.Proofs.Document
import Attribution.Proofs.Loading.Perform

/-!
# The history of a store

What a store comes to by a sequence of additions, some of which fail.

- `Addition`: what is asked of a store, a rule by its fields or a whole document.
- `Addition.Adds`: which rules an addition brings in and how it ends, one clause
  for each way it can go.
- `Addition.perform_step`: no addition does anything else, in any state.
- `Addition.listing_of_history`: the list of a store after any sequence of
  additions, from the rules that came in.
-/

namespace Attribution

/-- What is asked of a store: to add the rule with the given fields, of which the
last ones may be missing, or all rules of a document. -/
inductive Addition
  | rule (fields : List Datum)
  | document (contents : Datum)

namespace Addition

variable {σ : Type}

/-- The step that an addition takes. -/
def step : Addition → Load σ Unit
  | rule fields => Loading.addFields fields
  | document contents => do discard (Loading.addContents contents)

/-- Which rules an addition brings into a store, and how it ends. -/
inductive Adds : Addition → List Rule → Except Failure Unit → Prop
  /-- The fields of a valid rule bring the rule in. -/
  | rule {r : Rule} (h : r.IsValid) : Adds (.rule r.fields) [r] (.ok ())
  /-- Other fields bring nothing in and are refused because of one of them. -/
  | invalid {fields : List Datum} {e : FieldFailure} (hlen : fields.length ≤ 4)
      (h : ∀ r : Rule, r.IsValid → fields ≠ r.fields) :
      Adds (.rule fields) [] (.error (.field e))
  /-- No rule has more than four fields. -/
  | tooMany {fields : List Datum} (hlen : 4 < fields.length) :
      Adds (.rule fields) [] (.error (.misuse .wrongType))
  /-- Contents that spell no text bring nothing in. -/
  | undecodable {contents : Datum} {e : Failure} (h : ∀ t, ¬ contents.Spells t) :
      Adds (.document contents) [] (.error e)
  /-- A document brings in its rules if they are all valid. -/
  | document {contents : Datum} {t : Text} (h : contents.Spells t)
      (hvalid : ∀ r ∈ Document.rules t, r.IsValid) :
      Adds (.document contents) (Document.rules t) (.ok ())
  /-- Otherwise it brings in those before the first that is not. -/
  | stopped {contents : Datum} {t : Text} {before after : List Rule} {r : Rule}
      {e : FieldFailure} (h : contents.Spells t)
      (hrules : Document.rules t = before ++ r :: after)
      (hbefore : ∀ q ∈ before, q.IsValid) (hr : ¬ r.IsValid) :
      Adds (.document contents) before (.error (.field e))

/-- The rules that an addition brings in: one if its fields are those of a valid
rule, or those of a document before the first that is not valid. -/
def added : Addition → List Rule
  | rule fields => (Rule.ofFields fields).toOption.toList
  | document contents =>
    ((Document.decode contents).toOption.elim [] Document.rules).takeWhile (·.IsValid)

/-- The store after additions to an empty one. An addition that fails does not
stop those after it. -/
def storeAfter (additions : List Addition) : Store :=
  ((Loading.start ()).performAll (additions.map step)).store

/-! ## One addition -/

/-- The rules of a list before the first that is not valid, with what follows. -/
theorem takeWhile_isValid (rs : List Rule) :
    (∀ q ∈ rs.takeWhile (·.IsValid), q.IsValid) ∧
      ((∀ r ∈ rs, r.IsValid) ∧ rs.takeWhile (·.IsValid) = rs ∨
        ∃ r after, rs = rs.takeWhile (·.IsValid) ++ r :: after ∧ ¬ r.IsValid) := by
  induction rs with
  | nil => simp
  | cons r rest ih =>
    obtain ⟨hbefore, hrest⟩ := ih
    by_cases hr : r.IsValid
    · rw [List.takeWhile_cons_of_pos (by simpa using hr)]
      refine ⟨List.forall_mem_cons.mpr ⟨hr, hbefore⟩, ?_⟩
      rcases hrest with ⟨hall, heq⟩ | ⟨r', after, heq, hr'⟩
      · exact .inl ⟨List.forall_mem_cons.mpr ⟨hr, hall⟩, by rw [heq]⟩
      · exact .inr ⟨r', after, congrArg (r :: ·) heq, hr'⟩
    · rw [List.takeWhile_cons_of_neg (by simpa using hr)]
      exact ⟨fun q hq => absurd hq List.not_mem_nil, .inr ⟨r, rest, rfl, hr⟩⟩

theorem perform_rule (fields : List Datum) (l : Loading σ) :
    (rule fields).Adds (rule fields).added (l.perform (rule fields).step).1 ∧
      (l.perform (rule fields).step).2.store =
        l.store.insertAll (rule fields).added := by
  show Adds _ (Rule.ofFields fields).toOption.toList
    (l.perform (Loading.addFields fields)).1 ∧ _
  cases hfields : Rule.ofFields fields with
  | ok r =>
    obtain ⟨rfl, hr⟩ := Rule.ofFields_eq_ok_iff.mp hfields
    rw [step, added, Loading.perform_addFields_ok hfields, hfields]
    exact ⟨.rule hr, rfl⟩
  | error e =>
    rw [step, added, Loading.perform_addFields_error hfields, hfields]
    refine ⟨?_, rfl⟩
    -- too many fields are refused for their number, all others because of one of them
    by_cases hlen : fields.length ≤ 4
    · have hno : ∀ r : Rule, r.IsValid → fields ≠ r.fields := fun r hr heq => by
        have := Rule.ofFields_eq_ok_iff.mpr ⟨heq, hr⟩
        rw [hfields] at this
        cases this
      obtain ⟨e', he'⟩ := Rule.ofFields_eq_error hlen hno
      rw [hfields] at he'
      cases he'
      exact .invalid hlen hno
    · have hlong : Rule.ofFields fields = .error (.misuse .wrongType) :=
        Rule.ofFields_eq_misuse (Nat.lt_of_not_le hlen)
      rw [hfields] at hlong
      cases hlong
      exact .tooMany (Nat.lt_of_not_le hlen)

theorem perform_document (contents : Datum) (l : Loading σ) :
    (document contents).Adds (document contents).added
        (l.perform (document contents).step).1 ∧
      (l.perform (document contents).step).2.store =
        l.store.insertAll (document contents).added := by
  cases hdecode : Document.decode contents with
  | error e =>
    rw [step, Loading.perform_discard, Loading.perform_addContents_error hdecode, added,
      hdecode]
    refine ⟨.undecodable fun t ht => ?_, rfl⟩
    have := Document.decode_eq_ok_iff.mpr ht
    rw [hdecode] at this
    cases this
  | ok t =>
    have ht := Document.decode_eq_ok_iff.mp hdecode
    have hcontents := Loading.perform_addContents_ok (l := l) hdecode
    rw [step, Loading.perform_discard, added, hdecode]
    show Adds _ ((Document.rules t).takeWhile (·.IsValid)) _ ∧
      _ = l.store.insertAll ((Document.rules t).takeWhile (·.IsValid))
    obtain ⟨hbefore, ⟨hall, heq⟩ | ⟨r, after, heq, hr⟩⟩ := takeWhile_isValid (Document.rules t)
    · rw [Store.addAll_of_forall hall] at hcontents
      rw [heq, hcontents]
      exact ⟨.document ht hall, rfl⟩
    · obtain ⟨e, he⟩ := Store.addAll_of_invalid hbefore hr
      rw [← heq] at he
      rw [he] at hcontents
      rw [hcontents]
      exact ⟨.stopped ht heq hbefore hr, rfl⟩

/-- **Every addition goes one of the ways of `Adds`**, whatever the state, and its
rules are all it changes in the store. -/
theorem perform_step (a : Addition) (l : Loading σ) :
    a.Adds a.added (l.perform a.step).1 ∧
      (l.perform a.step).2.store = l.store.insertAll a.added := by
  cases a with
  | rule fields => exact perform_rule fields l
  | document contents => exact perform_document contents l

/-! ## All additions -/

theorem store_performAll (l : Loading σ) (additions : List Addition) :
    (l.performAll (additions.map step)).store =
      l.store.insertAll (additions.flatMap added) := by
  induction additions generalizing l with
  | nil => rfl
  | cons a rest ih =>
    show ((l.perform a.step).2.performAll (rest.map step)).store = _
    rw [ih, (perform_step a l).2, List.flatMap_cons, Store.insertAll_append]

/-- **The history of a store.** Every addition goes one of the ways of `Adds`,
and brings its rules into the store in order and does nothing else to it. The
store that additions make of an empty one lists one rule for each key of the
rules that came in. The keys stand in the order in which they first came in, and
each has the rule that came in last for it. -/
theorem listing_of_history (additions : List Addition) :
    (∀ (a : Addition) (l : Loading σ), a.Adds a.added (l.perform a.step).1 ∧
      (l.perform a.step).2.store = l.store.insertAll a.added) ∧
    (storeAfter additions).keys =
      ((additions.flatMap added).map Rule.key).eraseDups ∧
    (∀ r, r ∈ (storeAfter additions).toList ↔
      r.IsLastIn (additions.flatMap added)) ∧
    (storeAfter additions).size =
      ((additions.flatMap added).map Rule.key).eraseDups.length := by
  have hstore : storeAfter additions = Store.ofList (additions.flatMap added) :=
    store_performAll (Loading.start ()) additions
  have hkeys : (storeAfter additions).keys =
      ((additions.flatMap added).map Rule.key).eraseDups := by
    rw [hstore, Store.ofList, Store.keys_insertAll]
    rfl
  refine ⟨perform_step, hkeys, fun r => ?_, ?_⟩
  · rw [hstore, Store.ofList, Store.mem_toList_insertAll]
    exact or_iff_left fun h => absurd h.1 List.not_mem_nil
  · rw [← Store.length_toList, ← hkeys, Store.keys, List.length_map]

end Addition

end Attribution
