import Attribution.Proofs.Loading.Configured
import Attribution.Proofs.Repository.Git

/-!
# Loads that succeed

What was added if a load succeeds. A catalogue that has no words to skip a source makes
loads fail, but those that succeed are not changed by it.

- `Loading.SucceedsAs`: a step does the same as another wherever it succeeds.
- `Loading.succeedsAs_addRepository`, `Loading.succeedsAs_addBlob`: the catalogue makes no
  difference to loads that succeed.
- `Loading.Follows.of_ok`: a step that succeeds has followed a script to its end.
- `GitRepository.delivers_isContents`: what git repositories deliver.
-/

namespace Attribution

namespace Loading

variable {σ α β : Type}

/-! ## Catalogues -/

/-- Wherever the first step succeeds, the second does the same. -/
def SucceedsAs (step step' : Load σ α) : Prop :=
  ∀ ⦃l : Loading σ⦄ ⦃a : α⦄ ⦃l' : Loading σ⦄,
    l.perform step = (.ok a, l') → l.perform step' = (.ok a, l')

theorem SucceedsAs.refl (step : Load σ α) : SucceedsAs step step := fun _ _ _ h => h

theorem SucceedsAs.bind {step step' : Load σ α} {f f' : α → Load σ β}
    (h : SucceedsAs step step') (hf : ∀ a, SucceedsAs (f a) (f' a)) :
    SucceedsAs (step >>= f) (step' >>= f') := by
  intro l b l' hperform
  obtain ⟨a, l₁, hstep, hnext⟩ := perform_bind_eq_ok_iff.mp hperform
  exact perform_bind_eq_ok_iff.mpr ⟨a, l₁, h hstep, hf a hnext⟩

/-- The masking catalogue has no words for a text that cannot be read. -/
theorem render_masked (cause : ParseFailure) :
    Catalogue.masked.render cause.message = none := by
  cases cause <;> rfl

section Sources

variable {c : Catalogue} {r : Repository σ}

theorem succeedsAs_addSource (contents : Datum) (source : Text) :
    SucceedsAs (addSource c contents source : Load σ Unit) (addSource .plain contents source) := by
  cases c with
  | plain => exact .refl _
  | masked =>
    intro l a l' hperform
    cases hbuffer : l.perform (addBuffer contents source) with
    | mk outcome l₁ =>
      cases outcome with
      | ok u =>
        rw [addSource, perform_tryCatch_ok hbuffer] at hperform
        rw [addSource, perform_tryCatch_ok hbuffer, hperform]
      | error e =>
        rw [addSource, perform_tryCatch_error hbuffer] at hperform
        cases e with
        | parse cause =>
          simp only [render_masked] at hperform
          cases hperform
        | _ => cases hperform

theorem succeedsAs_addBlob (spec : Text) :
    SucceedsAs (addBlob c r spec) (addBlob .plain r spec) := by
  refine (SucceedsAs.refl _).bind fun found => ?_
  cases found with
  | none => exact .refl _
  | some contents => exact succeedsAs_addSource contents spec

theorem succeedsAs_addFile (path : Text) :
    SucceedsAs (addFile c r path) (addFile .plain r path) := by
  refine (SucceedsAs.refl _).bind fun found => ?_
  cases found with
  | none => exact .refl _
  | some contents => exact succeedsAs_addSource contents path

/-- **All that is configured for a repository** is added, if it is, whatever the
catalogue. -/
theorem succeedsAs_addRepository :
    SucceedsAs (addRepository c r) (addRepository .plain r) := by
  have hworktree : SucceedsAs (addWorktree c r) (addWorktree .plain r) := by
    refine (SucceedsAs.refl _).bind fun found => ?_
    cases found with
    | none => exact .refl _
    | some contents => exact succeedsAs_addSource contents worktreeSource
  have hblob : SucceedsAs (addChosenBlob c r) (addChosenBlob .plain r) := by
    refine (SucceedsAs.refl _).bind fun spec => ?_
    rcases spec with - | (- | ⟨first, rest⟩)
    · exact .refl _
    · exact .refl _
    · exact succeedsAs_addBlob (first :: rest)
  have hfile : SucceedsAs (addConfiguredFile c r) (addConfiguredFile .plain r) := by
    refine (SucceedsAs.refl _).bind fun path => ?_
    rcases path with - | (- | ⟨first, rest⟩)
    · exact .refl _
    · exact .refl _
    · exact succeedsAs_addFile (first :: rest)
  exact hworktree.bind fun _ => hblob.bind fun _ => hfile

end Sources

/-! ## Scripts -/

section Follows

variable {r : Repository σ} {step : Load σ α} {S : α → List Exchange → Prop} {a : α}
  {l l' : Loading σ}

/-- **A step that succeeds** has followed a script to its end. -/
theorem Follows.of_ok (h : Follows r step S) (hperform : l.perform step = (.ok a, l')) :
    ∃ es, S a es ∧ r.Holds l.repository es l'.repository ∧
      l'.store = l.store.insertAll (es.flatMap Exchange.rules) := by
  obtain ⟨outcome, s', ρ', hyields, hcourse⟩ := h l.store l.repository
  obtain ⟨log', hperform'⟩ := hyields l.log
  obtain ⟨houtcome, rfl⟩ := Prod.mk.inj (hperform.symm.trans hperform')
  cases hcourse with
  | through hscript hheld _ hstore =>
    cases houtcome
    exact ⟨_, hscript, hheld, hstore⟩
  | failed => cases houtcome
  | refused => cases houtcome

variable {c : Catalogue}

/-- All that is configured for a repository is asked for and added. -/
theorem asked_of_addRepository (hr : r.Delivers Datum.IsContents) {u : Unit}
    (hperform : l.perform (addRepository c r) = (.ok u, l')) :
    ∃ a : Replies, r.Holds l.repository a.script l'.repository ∧
      l'.store = l.store.insertAll (a.script.flatMap Exchange.rules) := by
  obtain ⟨es, ⟨a, rfl⟩, hheld, hstore⟩ :=
    (follows_addRepository hr).of_ok (succeedsAs_addRepository hperform)
  exact ⟨a, hheld, hstore⟩

theorem asked_of_addBlob (hr : r.Delivers Datum.IsContents) {spec : Text} {u : Unit}
    (hperform : l.perform (addBlob c r spec) = (.ok u, l')) :
    ∃ found, r.Answers l.repository ⟨.blob spec, found⟩ l'.repository ∧
      l'.store = l.store.insertAll (Exchange.rules ⟨.blob spec, found⟩) := by
  obtain ⟨es, ⟨found, rfl⟩, hheld, hstore⟩ :=
    (follows_addBlob hr spec).of_ok (succeedsAs_addBlob spec hperform)
  cases hheld with
  | cons hanswers hrest =>
    cases hrest
    rw [List.flatMap_singleton] at hstore
    exact ⟨found, hanswers, hstore⟩

end Follows

end Loading

/-- **What git repositories deliver** are bytes. -/
theorem GitRepository.delivers_isContents (h : Host) :
    (repository h).Delivers Datum.IsContents := by
  rintro ρ ⟨call, reply⟩ ρ' hanswers d hd
  have hbytes : AreBytes (Exchange.contents? ⟨call, reply⟩) := by
    cases call with
    | worktreeMailmap => exact (ends_worktreeMailmap (p := fun _ => True)).ok hanswers
    | hasWorktree => exact areBytes_none
    | config key => exact areBytes_none
    | blob spec => exact (ends_blob spec).ok hanswers
    | file path => exact (ends_file path).ok hanswers
  obtain ⟨bytes, rfl⟩ := hbytes d hd
  exact .bytes bytes

end Attribution
