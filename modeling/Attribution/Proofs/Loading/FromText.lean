import Attribution.Proofs.Loading.Sources

/-!
# Stores that are filled from text

- `Store.FromText`: the stores that sources fill, in whatever order and whichever of them
  fail.
- `Store.FromText.fromLine`: all of their rules can have come from lines.
- `Store.ofDocument`: the store that a document fills.
- `Store.toList_ofDocument`: what it lists.
-/

namespace Attribution

namespace Store

/-- A store that is filled from text: an empty one, one to which a source of any kind was
added, and one to which a run added the sources that its options name. A source may fail,
and what it added before it did stays. -/
inductive FromText : Store → Prop
  | empty : FromText empty
  | source {σ : Type} {l : Loading σ} (h : FromText l.store) (source : Loading.Source σ) :
      FromText (l.perform source.step).2.store
  | run {l : Loading GitRepository} (hl : FromText l.store) (h : Host) (o : Options) :
      FromText (l.perform (Session.load h o)).2.store

/-- **The rules of a store that is filled from text** can have come from lines. -/
theorem FromText.fromLine {s : Store} (h : s.FromText) : ∀ r ∈ s.toList, r.FromLine := by
  induction h with
  | empty => exact forall_toList_empty
  | source _ source ih => exact (source.addsOnly_step _).forall_toList ih
  | run _ h o ih => exact (Session.addsOnly_load h o _).forall_toList ih

/-! ## One document -/

/-- The store that a document fills. -/
def ofDocument (t : Text) : Store :=
  ((Loading.start ()).perform (Loading.Source.document (.text t)).step).2.store

theorem fromText_ofDocument (t : Text) : (ofDocument t).FromText :=
  FromText.empty.source (l := Loading.start ()) (.document (.text t))

/-- **The rules of a document** are what its store lists, if they are valid and no two are
about the same. -/
theorem toList_ofDocument {t : Text} (hvalid : ∀ r ∈ Document.rules t, r.IsValid)
    (hkeys : ((Document.rules t).map Rule.key).Nodup) :
    (ofDocument t).toList = Document.rules t := by
  have hstore : ofDocument t = empty.insertAll (Addition.document (.text t)).added :=
    (Addition.perform_document (.text t) (Loading.start ())).2
  have hadded : (Addition.document (.text t)).added = Document.rules t :=
    List.takeWhile_eq_self_iff.mpr fun r hr => decide_eq_true (hvalid r hr)
  rw [hstore, hadded]
  exact toList_insertAll_of_nodup hkeys

end Store

end Attribution
