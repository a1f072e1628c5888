import Attribution.Proofs.Loading.Steps
import Attribution.Proofs.Rule.WellFormed
import Attribution.Proofs.Store.History
import Attribution.Session

/-!
# Stores filled from sources

Whatever is loaded, and whatever fails, nothing happens to a store but that rules
are added to it, and these are rules that were read.

- `Store.ExtendsTo`: a store and one that comes of it by adding rules.
- `Loading.AddsOnly`: a step that only adds rules with a property to the store,
  also when it fails.
- `Loading.extendsTo_performAll`: so do several such steps together.
- `Loading.Source`: the sources that a store can be filled from.
- `Loading.Source.addsOnly_step`, `Session.addsOnly_load`: they only add rules
  that are valid and well formed.
-/

namespace Attribution

/-- A rule that can have come from a line into a store. -/
def Rule.FromLine (r : Rule) : Prop := r.IsValid ∧ r.WellFormed

namespace Store

variable {p : Rule → Prop} {s s' s'' : Store}

/-- A store comes of another by adding rules with a property. -/
def ExtendsTo (p : Rule → Prop) (s s' : Store) : Prop :=
  ∃ rs, (∀ r ∈ rs, p r) ∧ s' = s.insertAll rs

theorem ExtendsTo.refl (s : Store) : s.ExtendsTo p s :=
  ⟨[], fun _ hr => absurd hr List.not_mem_nil, rfl⟩

theorem ExtendsTo.trans (h : s.ExtendsTo p s') (h' : s'.ExtendsTo p s'') :
    s.ExtendsTo p s'' := by
  obtain ⟨rs, hrs, rfl⟩ := h
  obtain ⟨qs, hqs, rfl⟩ := h'
  exact ⟨rs ++ qs, List.forall_mem_append.mpr ⟨hrs, hqs⟩, (insertAll_append ..).symm⟩

theorem ExtendsTo.mono {q : Rule → Prop} (h : s.ExtendsTo p s') (hpq : ∀ r, p r → q r) :
    s.ExtendsTo q s' := by
  obtain ⟨rs, hrs, hstore⟩ := h
  exact ⟨rs, fun r hr => hpq r (hrs r hr), hstore⟩

/-- A store with rules of a kind that is extended by such rules has rules of this kind. -/
theorem ExtendsTo.forall_toList (h : s.ExtendsTo p s') (hs : ∀ r ∈ s.toList, p r) :
    ∀ r ∈ s'.toList, p r := by
  obtain ⟨rs, hrs, rfl⟩ := h
  intro r hr
  rcases mem_toList_insertAll.mp hr with ⟨before, after, rfl, -⟩ | ⟨hr, -⟩
  · exact hrs r (List.mem_append_right before (List.mem_cons_self ..))
  · exact hs r hr

theorem forall_toList_empty : ∀ r ∈ empty.toList, p r :=
  fun _ hr => absurd hr List.not_mem_nil

end Store

namespace Loading

variable {σ α β : Type}

/-- A step does nothing to the store but add rules with a property, in any state and
also when it fails. -/
def AddsOnly (p : Rule → Prop) (step : Load σ α) : Prop :=
  ∀ l : Loading σ, l.store.ExtendsTo p (l.perform step).2.store

section Combinators

variable {p : Rule → Prop} {step : Load σ α}

/-- The store of a state comes of that of another by adding rules with a property. -/
def StoreExtendsTo (p : Rule → Prop) (l l' : Loading σ) : Prop := l.store.ExtendsTo p l'.store

instance : Std.Refl (StoreExtendsTo (σ := σ) p) := ⟨fun l => .refl l.store⟩

instance : Trans (StoreExtendsTo (σ := σ) p) (StoreExtendsTo (σ := σ) p)
    (StoreExtendsTo (σ := σ) p) := ⟨.trans⟩

theorem addsOnly_of_store_eq (h : ∀ l : Loading σ, (l.perform step).2.store = l.store) :
    AddsOnly p step := by
  intro l
  rw [h]
  exact .refl l.store

theorem addsOnly_pure (a : α) : AddsOnly p (pure a : Load σ α) :=
  addsOnly_of_store_eq fun _ => rfl

theorem addsOnly_throw (e : Failure) : AddsOnly p (throw e : Load σ α) :=
  addsOnly_of_store_eq fun _ => rfl

theorem addsOnly_report (lines : List LogLine) :
    AddsOnly p (report lines : Load σ Unit) :=
  addsOnly_of_store_eq fun _ => rfl

theorem addsOnly_ask (c : Call σ α) : AddsOnly p (ask c) :=
  addsOnly_of_store_eq fun _ => rfl

theorem addsOnly_bind {f : α → Load σ β} (h : AddsOnly p step)
    (hf : ∀ a, AddsOnly p (f a)) : AddsOnly p (step >>= f) :=
  Along.bind (R := StoreExtendsTo p) h hf

theorem addsOnly_tryCatch {handler : Failure → Load σ α} (h : AddsOnly p step)
    (hhandler : ∀ e, AddsOnly p (handler e)) : AddsOnly p (tryCatch step handler) :=
  along_tryCatch (R := StoreExtendsTo p) h hhandler

theorem addsOnly_forM {xs : List α} {f : α → Load σ Unit}
    (h : ∀ x, AddsOnly p (f x)) : AddsOnly p (xs.forM f) :=
  along_forM (R := StoreExtendsTo p) fun x _ => h x

/-- Steps that only add rules do so together, whichever of them fail. -/
theorem extendsTo_performAll {steps : List (Load σ Unit)}
    (h : ∀ step ∈ steps, AddsOnly p step) (l : Loading σ) :
    l.store.ExtendsTo p (l.performAll steps).store := by
  induction steps generalizing l with
  | nil => exact .refl l.store
  | cons step rest ih =>
    obtain ⟨hstep, hrest⟩ := List.forall_mem_cons.mp h
    exact (hstep l).trans (ih hrest (l.perform step).2)

end Combinators

/-! ## Sources -/

/-- The rules of a document that come into a store are valid, and they were read. -/
theorem addsOnly_addContents (contents : Datum) :
    AddsOnly Rule.FromLine (addContents contents : Load σ Nat) := by
  intro l
  have hstore := (Addition.perform_document contents l).2
  rw [Addition.step, perform_discard] at hstore
  refine ⟨(Addition.document contents).added, fun r hr => ?_, hstore⟩
  rw [Addition.added] at hr
  cases hdecode : Document.decode contents with
  | error e =>
    rw [hdecode] at hr
    exact absurd hr List.not_mem_nil
  | ok t =>
    rw [hdecode] at hr
    exact ⟨by simpa using List.mem_takeWhile_imp hr,
      Document.wellFormed_of_mem_rules ((List.takeWhile_subset _) hr)⟩

theorem addsOnly_addBuffer (contents : Datum) (source : Text) :
    AddsOnly Rule.FromLine (addBuffer contents source : Load σ Unit) :=
  addsOnly_bind (addsOnly_addContents contents) fun _ => addsOnly_report _

theorem addsOnly_addSource (c : Catalogue) (contents : Datum) (source : Text) :
    AddsOnly Rule.FromLine (addSource c contents source : Load σ Unit) := by
  refine addsOnly_tryCatch (addsOnly_addBuffer contents source) fun e => ?_
  split
  · split
    · exact addsOnly_report _
    · exact addsOnly_throw _
  · exact addsOnly_throw _

theorem addsOnly_addPath (h : Host) (path : PathName) :
    AddsOnly Rule.FromLine (addPath h path : Load σ Unit) := by
  unfold addPath
  split
  · exact addsOnly_addBuffer _ _
  · split
    · exact addsOnly_report _
    · exact addsOnly_throw _

theorem addsOnly_addRequiredPath (h : Host) (path : PathName) :
    AddsOnly Rule.FromLine (addRequiredPath h path : Load σ Unit) := by
  unfold addRequiredPath
  split
  · exact addsOnly_bind (addsOnly_addContents _) fun _ => addsOnly_pure ()
  · exact addsOnly_throw _

theorem carries_addsOnly (c : Catalogue) (r : Repository σ) :
    Carries c r (StoreExtendsTo Rule.FromLine) where
  report := addsOnly_report
  source := addsOnly_addSource c
  worktreeMailmap := addsOnly_ask _
  hasWorktree := addsOnly_ask _
  config _ := addsOnly_ask _
  blob _ := addsOnly_ask _
  file _ := addsOnly_ask _

/-- A source that a store can be filled from: a document, which may be known by a
name, a file on the host, one that must be there, a blob or a file of a repository,
or all that is configured for a repository. -/
inductive Source (σ : Type)
  | document (contents : Datum)
  | buffer (contents : Datum) (name : Text)
  | path (h : Host) (name : PathName)
  | requiredPath (h : Host) (name : PathName)
  | blob (c : Catalogue) (r : Repository σ) (spec : Text)
  | file (c : Catalogue) (r : Repository σ) (name : Text)
  | repository (c : Catalogue) (r : Repository σ)

/-- The step that reads a source. -/
def Source.step : Source σ → Load σ Unit
  | document contents => do discard (addContents contents)
  | buffer contents name => addBuffer contents name
  | path h name => addPath h name
  | requiredPath h name => addRequiredPath h name
  | blob c r spec => addBlob c r spec
  | file c r name => addFile c r name
  | repository c r => addRepository c r

/-- **A source only adds rules that were read from it.** -/
theorem Source.addsOnly_step (source : Source σ) :
    AddsOnly Rule.FromLine source.step := by
  cases source with
  | document contents =>
    exact addsOnly_bind (addsOnly_addContents contents) fun _ => addsOnly_pure ()
  | buffer contents name => exact addsOnly_addBuffer contents name
  | path h name => exact addsOnly_addPath h name
  | requiredPath h name => exact addsOnly_addRequiredPath h name
  | blob c r spec => exact (carries_addsOnly c r).addBlob spec
  | file c r name => exact (carries_addsOnly c r).addFile name
  | repository c r => exact (carries_addsOnly c r).addRepository

end Loading

namespace Session

open Loading

theorem addsOnly_valueText {σ : Type} (p : Rule → Prop) (v : OptionValue) :
    AddsOnly p (valueText v : Load σ Text) := by
  cases v with
  | text t => exact addsOnly_pure t
  | lost => exact addsOnly_throw _

theorem addsOnly_turnTo (p : Rule → Prop) (path : Text) : AddsOnly p (turnTo path) :=
  addsOnly_of_store_eq fun _ => rfl

theorem addsOnly_loadRepository (h : Host) (o : Options) :
    AddsOnly Rule.FromLine (loadRepository h o) := by
  unfold loadRepository
  split
  · exact addsOnly_pure ()
  · refine addsOnly_bind (addsOnly_valueText _ _) fun path => ?_
    exact addsOnly_bind (addsOnly_turnTo _ path) fun _ => (carries_addsOnly _ _).addRepository

theorem addsOnly_loadFile (h : Host) (v : OptionValue) :
    AddsOnly Rule.FromLine (loadFile h v) :=
  addsOnly_bind (addsOnly_valueText _ v) fun _ => addsOnly_addPath h _

theorem addsOnly_loadBlob (h : Host) (o : Options) (v : OptionValue) :
    AddsOnly Rule.FromLine (loadBlob h o v) := by
  have hblob : AddsOnly Rule.FromLine (do
      Loading.addBlob h.catalogue (GitRepository.repository h) (← valueText v)) :=
    addsOnly_bind (addsOnly_valueText _ v) fun _ => (carries_addsOnly _ _).addBlob _
  unfold loadBlob
  dsimp only
  split
  · exact addsOnly_bind (addsOnly_turnTo _ _) fun _ => hblob
  · exact hblob

/-- **A run only adds rules that were read from its sources.** -/
theorem addsOnly_load (h : Host) (o : Options) : AddsOnly Rule.FromLine (load h o) := by
  refine addsOnly_bind (addsOnly_loadRepository h o) fun _ => ?_
  refine addsOnly_bind (addsOnly_forM (addsOnly_loadFile h)) fun _ => ?_
  exact addsOnly_forM (addsOnly_loadBlob h o)

end Session

end Attribution
